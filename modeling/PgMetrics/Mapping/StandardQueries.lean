import PgMetrics.Mapping.Query
import PgMetrics.Mapping.StandardLayout

/-!
# The standard queries

The queries of the standard namespaces that are not read as a whole.

## Main definitions

* `Standard.queries`.
-/

namespace PgMetrics.Standard

/-- A query given by its lines. -/
def sqlLines (lines : List String) : String := String.intercalate "\n" lines

/-- Counts the locks of every database by mode, also where there are none. -/
def locks : String := sqlLines [
  "SELECT pg_database.datname,tmp.mode,COALESCE(count,0) as count",
  "FROM",
  "\t(",
  "\t  VALUES ('accesssharelock'),",
  "\t         ('rowsharelock'),",
  "\t         ('rowexclusivelock'),",
  "\t         ('shareupdateexclusivelock'),",
  "\t         ('sharelock'),",
  "\t         ('sharerowexclusivelock'),",
  "\t         ('exclusivelock'),",
  "\t         ('accessexclusivelock'),",
  "\t         ('sireadlock')",
  "\t) AS tmp(mode) CROSS JOIN pg_database",
  "LEFT JOIN",
  "\t(SELECT database, lower(mode) AS mode,count(*) AS count",
  "\tFROM pg_locks WHERE database IS NOT NULL",
  "\tGROUP BY database, lower(mode)",
  ") AS tmp2",
  "ON tmp.mode=tmp2.mode and pg_database.oid = tmp2.database ORDER BY 1"]

/-- The replicas and their lag, from release 10 on. -/
def replication10 : String := sqlLines [
  "SELECT *,",
  ("\t(case pg_is_in_recovery() when 't' then null else pg_current_wal_lsn() end) AS " ++
    "pg_current_wal_lsn,"),
  ("\t(case pg_is_in_recovery() when 't' then null else " ++
    "pg_wal_lsn_diff(pg_current_wal_lsn(), pg_lsn('0/0'))::float end) AS " ++
    "pg_current_wal_lsn_bytes,"),
  ("\t(case pg_is_in_recovery() when 't' then null else " ++
    "pg_wal_lsn_diff(pg_current_wal_lsn(), replay_lsn)::float end) AS pg_wal_lsn_diff"),
  "FROM pg_stat_replication"]

/-- The replicas and their lag, from release 9.2 until release 10. -/
def replication92 : String := sqlLines [
  "SELECT *,",
  ("\t(case pg_is_in_recovery() when 't' then null else pg_current_xlog_location() end) AS " ++
    "pg_current_xlog_location,"),
  ("\t(case pg_is_in_recovery() when 't' then null else " ++
    "pg_xlog_location_diff(pg_current_xlog_location(), replay_location)::float end) AS " ++
    "pg_xlog_location_diff"),
  "FROM pg_stat_replication"]

/-- The replicas before release 9.2, which cannot tell the lag. -/
def replicationBefore92 : String := sqlLines [
  "SELECT *,",
  ("\t(case pg_is_in_recovery() when 't' then null else pg_current_xlog_location() end) AS " ++
    "pg_current_xlog_location"),
  "FROM pg_stat_replication"]

/-- The replication slots, from release 9.4 until release 10. -/
def replicationSlots94 : String := sqlLines [
  "SELECT slot_name, database, active,",
  "\tpg_xlog_location_diff(pg_current_xlog_location(), restart_lsn)::float AS pg_wal_lsn_diff",
  "FROM pg_replication_slots"]

/-- The replication slots, from release 10 on. -/
def replicationSlots10 : String := sqlLines [
  "SELECT slot_name, database, active,",
  "\t(case pg_is_in_recovery() when 't'",
  "\t\tthen pg_wal_lsn_diff(pg_last_wal_receive_lsn(), restart_lsn)",
  "\t\telse pg_wal_lsn_diff(pg_current_wal_lsn(), restart_lsn) end)::float AS pg_wal_lsn_diff",
  "FROM pg_replication_slots"]

/-- The archiver, with the age of its last file. -/
def archiver : String := sqlLines [
  "SELECT *,",
  "\textract(epoch from now() - last_archived_time)::float AS last_archive_age",
  "FROM pg_stat_archiver"]

/-- Counts the connections by state, also where there are none. -/
def activity92 : String := sqlLines [
  "SELECT",
  "\tpg_database.datname,",
  "\ttmp.state,",
  "\ttmp2.usename,",
  "\ttmp2.application_name,",
  "\tCOALESCE(count,0) as count,",
  "\tCOALESCE(max_tx_duration,0) as max_tx_duration",
  "FROM",
  "\t(",
  "\t  VALUES ('active'),",
  "\t         ('idle'),",
  "\t         ('idle in transaction'),",
  "\t         ('idle in transaction (aborted)'),",
  "\t         ('fastpath function call'),",
  "\t         ('disabled')",
  "\t) AS tmp(state) CROSS JOIN pg_database",
  "LEFT JOIN",
  "(",
  "\tSELECT",
  "\t\tdatname,",
  "\t\tstate,",
  "\t\tusename,",
  "\t\tapplication_name,",
  "\t\tcount(*) AS count,",
  "\t\tMAX(EXTRACT(EPOCH FROM now() - xact_start))::float AS max_tx_duration",
  "\tFROM pg_stat_activity GROUP BY datname,state,usename,application_name) AS tmp2",
  "\tON tmp.state = tmp2.state AND pg_database.datname = tmp2.datname"]

/-- Counts the connections before release 9.2, which cannot tell the state. -/
def activityBefore92 : String := sqlLines [
  "SELECT",
  "\tdatname,",
  "\t'unknown' AS state,",
  "\tusename,",
  "\tapplication_name,",
  "\tCOALESCE(count(*),0) AS count,",
  "\tCOALESCE(MAX(EXTRACT(EPOCH FROM now() - xact_start))::float,0) AS max_tx_duration",
  "FROM pg_stat_activity GROUP BY datname,usename,application_name"]

/-- The queries of the standard namespaces. -/
def queries : QueryTable := .ofList [
  ("pg_locks", [⟨anyRelease, locks⟩]),
  ("pg_stat_replication", [⟨VersionRange.atLeast v10, replication10⟩,
    ⟨VersionRange.between v92 v10, replication92⟩,
    ⟨VersionRange.below v92, replicationBefore92⟩]),
  ("pg_replication_slots", [⟨VersionRange.between v94 v10, replicationSlots94⟩,
    ⟨VersionRange.atLeast v10, replicationSlots10⟩]),
  ("pg_stat_archiver", [⟨VersionRange.atLeast ⟨0, 0, 0⟩, archiver⟩]),
  ("pg_stat_activity", [⟨VersionRange.atLeast v92, activity92⟩,
    ⟨VersionRange.below v92, activityBefore92⟩])]

end PgMetrics.Standard
