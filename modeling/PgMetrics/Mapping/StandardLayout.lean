import PgMetrics.Mapping.Layout

/-!
# The standard layout

The statistics views that every server has, with the use of their columns. All of them are read
from primaries only and never from the cache.

## Main definitions

* `Standard.layout`.
-/

namespace PgMetrics.Standard

def v92 : Version := ⟨9, 2, 0⟩

def v94 : Version := ⟨9, 4, 0⟩

def v10 : Version := ⟨10, 0, 0⟩

def anyRelease : VersionRange := [⟨.above, ⟨0, 0, 0⟩⟩]

def column (name : String) (usage : Usage) (description : String) : String × Column :=
  (name, .plain usage description)

def columnOn (versions : VersionRange) (name : String) (usage : Usage) (description : String) :
    String × Column :=
  (name, ⟨usage, description, none, some versions⟩)

def view (columns : List (String × Column)) : Namespace := ⟨.ofList columns, true, 0⟩

def pgStatBgwriter : Namespace := view [
  column "checkpoints_timed" .counter "Number of scheduled checkpoints that have been performed",
  column "checkpoints_req" .counter "Number of requested checkpoints that have been performed",
  column "checkpoint_write_time" .counter
    ("Total amount of time that has been spent in the portion of checkpoint processing " ++
      "where files are written to disk, in milliseconds"),
  column "checkpoint_sync_time" .counter
    ("Total amount of time that has been spent in the portion of checkpoint processing " ++
      "where files are synchronized to disk, in milliseconds"),
  column "buffers_checkpoint" .counter "Number of buffers written during checkpoints",
  column "buffers_clean" .counter "Number of buffers written by the background writer",
  column "maxwritten_clean" .counter
    ("Number of times the background writer stopped a cleaning scan because it had written " ++
      "too many buffers"),
  column "buffers_backend" .counter "Number of buffers written directly by a backend",
  column "buffers_backend_fsync" .counter
    ("Number of times a backend had to execute its own fsync call (normally the background " ++
      "writer handles those even when the backend does its own write)"),
  column "buffers_alloc" .counter "Number of buffers allocated",
  column "stats_reset" .counter "Time at which these statistics were last reset"]

def pgStatDatabase : Namespace := view [
  column "datid" .label "OID of a database",
  column "datname" .label "Name of this database",
  column "numbackends" .gauge
    ("Number of backends currently connected to this database. This is the only column in " ++
      "this view that returns a value reflecting current state; all other columns return " ++
      "the accumulated values since the last reset."),
  column "xact_commit" .counter
    "Number of transactions in this database that have been committed",
  column "xact_rollback" .counter
    "Number of transactions in this database that have been rolled back",
  column "blks_read" .counter "Number of disk blocks read in this database",
  column "blks_hit" .counter
    ("Number of times disk blocks were found already in the buffer cache, so that a read " ++
      "was not necessary (this only includes hits in the PostgreSQL buffer cache, not the " ++
      "operating system's file system cache)"),
  column "tup_returned" .counter "Number of rows returned by queries in this database",
  column "tup_fetched" .counter "Number of rows fetched by queries in this database",
  column "tup_inserted" .counter "Number of rows inserted by queries in this database",
  column "tup_updated" .counter "Number of rows updated by queries in this database",
  column "tup_deleted" .counter "Number of rows deleted by queries in this database",
  column "conflicts" .counter
    ("Number of queries canceled due to conflicts with recovery in this database. " ++
      "(Conflicts occur only on standby servers; see pg_stat_database_conflicts for " ++
      "details.)"),
  column "temp_files" .counter
    ("Number of temporary files created by queries in this database. All temporary files " ++
      "are counted, regardless of why the temporary file was created (e.g., sorting or " ++
      "hashing), and regardless of the log_temp_files setting."),
  column "temp_bytes" .counter
    ("Total amount of data written to temporary files by queries in this database. All " ++
      "temporary files are counted, regardless of why the temporary file was created, and " ++
      "regardless of the log_temp_files setting."),
  column "deadlocks" .counter "Number of deadlocks detected in this database",
  column "blk_read_time" .counter
    "Time spent reading data file blocks by backends in this database, in milliseconds",
  column "blk_write_time" .counter
    "Time spent writing data file blocks by backends in this database, in milliseconds",
  column "stats_reset" .counter "Time at which these statistics were last reset"]

def pgStatDatabaseConflicts : Namespace := view [
  column "datid" .label "OID of a database",
  column "datname" .label "Name of this database",
  column "confl_tablespace" .counter
    "Number of queries in this database that have been canceled due to dropped tablespaces",
  column "confl_lock" .counter
    "Number of queries in this database that have been canceled due to lock timeouts",
  column "confl_snapshot" .counter
    "Number of queries in this database that have been canceled due to old snapshots",
  column "confl_bufferpin" .counter
    "Number of queries in this database that have been canceled due to pinned buffers",
  column "confl_deadlock" .counter
    "Number of queries in this database that have been canceled due to deadlocks"]

def pgLocks : Namespace := view [
  column "datname" .label "Name of this database",
  column "mode" .label "Type of Lockmode",
  column "count" .gauge "Number of locks"]

def pgStatReplication : Namespace := view [
  columnOn (VersionRange.below v92) "procpid" .label "Process ID of a WAL sender process",
  columnOn (VersionRange.atLeast v92) "pid" .label "Process ID of a WAL sender process",
  column "usesysid" .discard "OID of the user logged into this WAL sender process",
  column "usename" .discard "Name of the user logged into this WAL sender process",
  column "application_name" .label "Name of the application that is connected to this WAL sender",
  column "client_addr" .label
    ("IP address of the client connected to this WAL sender. If this field is null, it " ++
      "indicates that the client is connected via a Unix socket on the server machine."),
  column "client_hostname" .discard
    "Host name of the connected client, as reported by a reverse DNS lookup of client_addr",
  column "client_port" .discard
    ("TCP port number that the client is using for communication with this WAL sender, or " ++
      "-1 if a Unix socket is used"),
  column "backend_start" .discard
    "Time when this process was started, i.e., when the client connected to this WAL sender",
  column "backend_xmin" .discard "The current backend's xmin horizon.",
  column "state" .label "Current WAL sender state",
  columnOn (VersionRange.atLeast v92) "slot_name" .label
    "A unique, cluster-wide identifier for the replication slot",
  column "sync_priority" .discard
    "Priority of this standby server for being chosen as the synchronous standby",
  column "sync_state" .label "Synchronous state of this standby server",
  columnOn (VersionRange.below v10) "sent_location" .discard
    "Last transaction log position sent on this connection",
  columnOn (VersionRange.below v10) "write_location" .discard
    "Last transaction log position written to disk by this standby server",
  columnOn (VersionRange.below v10) "flush_location" .discard
    "Last transaction log position flushed to disk by this standby server",
  columnOn (VersionRange.below v10) "replay_location" .discard
    "Last transaction log position replayed into the database on this standby server",
  columnOn (VersionRange.atLeast v10) "sent_lsn" .discard
    "Last write-ahead log location sent on this connection",
  columnOn (VersionRange.atLeast v10) "write_lsn" .discard
    "Last write-ahead log location written to disk by this standby server",
  columnOn (VersionRange.atLeast v10) "flush_lsn" .discard
    "Last write-ahead log location flushed to disk by this standby server",
  columnOn (VersionRange.atLeast v10) "replay_lsn" .discard
    "Last write-ahead log location replayed into the database on this standby server",
  column "write_lag" .discard
    ("Time elapsed between flushing recent WAL locally and receiving notification that this " ++
      "standby server has written it"),
  column "flush_lag" .discard
    ("Time elapsed between flushing recent WAL locally and receiving notification that this " ++
      "standby server has written and flushed it"),
  column "replay_lag" .discard
    ("Time elapsed between flushing recent WAL locally and receiving notification that this " ++
      "standby server has written, flushed and applied it"),
  column "pg_current_xlog_location" .discard
    "pg_current_xlog_location provides the current transaction log write location",
  columnOn (VersionRange.atLeast v10) "pg_current_wal_lsn" .discard
    "pg_current_wal_lsn provides the current write-ahead log write location",
  columnOn (VersionRange.atLeast v10) "pg_current_wal_lsn_bytes" .gauge "WAL position in bytes",
  columnOn (VersionRange.between v92 v10) "pg_xlog_location_diff" .gauge
    "Lag in bytes between master and slave",
  columnOn (VersionRange.atLeast v10) "pg_wal_lsn_diff" .gauge
    "Lag in bytes between master and slave"]

def pgReplicationSlots : Namespace := view [
  column "slot_name" .label "Name of the replication slot",
  column "database" .label "Name of the database",
  column "active" .gauge "Flag indicating if the slot is active",
  column "pg_wal_lsn_diff" .gauge "Replication lag in bytes"]

def pgStatArchiver : Namespace := view [
  column "archived_count" .counter "Number of WAL files that have been successfully archived",
  column "last_archived_wal" .discard "Name of the last WAL file successfully archived",
  column "last_archived_time" .discard "Time of the last successful archive operation",
  column "failed_count" .counter "Number of failed attempts for archiving WAL files",
  column "last_failed_wal" .discard "Name of the WAL file of the last failed archival operation",
  column "last_failed_time" .discard "Time of the last failed archival operation",
  column "stats_reset" .discard "Time at which these statistics were last reset",
  column "last_archive_age" .gauge
    "Time in seconds since last WAL segment was successfully archived"]

def pgStatActivity : Namespace := view [
  column "datname" .label "Name of this database",
  column "state" .label "connection state",
  column "usename" .label "connection usename",
  column "application_name" .label "connection application_name",
  column "count" .gauge "number of connections in this state",
  column "max_tx_duration" .gauge
    "max duration in seconds any active transaction has been running"]

def layout : Layout := .ofList [
  ("pg_stat_bgwriter", pgStatBgwriter),
  ("pg_stat_database", pgStatDatabase),
  ("pg_stat_database_conflicts", pgStatDatabaseConflicts),
  ("pg_locks", pgLocks),
  ("pg_stat_replication", pgStatReplication),
  ("pg_replication_slots", pgReplicationSlots),
  ("pg_stat_archiver", pgStatArchiver),
  ("pg_stat_activity", pgStatActivity)]

end PgMetrics.Standard
