import PgMetrics.Config.Basic
import PgMetrics.Config.Tree

/-!
# Configurations as trees

A configuration is written as a tree with a table for each section and read back from one. The
tree holds no passwords. In reading, every field but the host of an endpoint may be missing, and
fields without a meaning do not count; a field of the wrong shape spoils the whole.

## Main definitions

* `Config.toTree`: the tree that says everything but the passwords.
* `Config.ofTree?`: the configuration that a tree stands for.
-/

namespace PgMetrics

namespace Tree

/-- A whole number of 16 bits. -/
def word16? (t : Tree) : Option UInt16 := (t.count? UInt16.size).map UInt16.ofNat

/-- A whole number of 32 bits. -/
def word32? (t : Tree) : Option UInt32 := (t.count? UInt32.size).map UInt32.ofNat

/-- A whole number of 64 bits. -/
def word64? (t : Tree) : Option UInt64 := (t.count? UInt64.size).map UInt64.ofNat

/-- A natural number as a tree. -/
def ofNat (n : Nat) : Tree := .number (Int.ofNat n)

end Tree

namespace Endpoint

/-- The fields of an endpoint in their order. -/
def fieldNames : List String :=
  ["host", "port", "user", "password", "database", "sslmode", "master"]

def ofTree? (t : Tree) : Option Endpoint := do
  let fields ← t.fields? fieldNames
  let host ← (← fields.lookup "host").text?
  let absent := ofHost host
  return {
    host
    port := ← Tree.fieldOr fields "port" Tree.word16? absent.port
    user := ← Tree.fieldOr fields "user" Tree.text? absent.user
    password := ← Tree.fieldOr fields "password" (fun t => t.text?.map some) absent.password
    database := ← Tree.fieldOr fields "database" Tree.text? absent.database
    sslmode := ← Tree.fieldOr fields "sslmode" Tree.text? absent.sslmode
    master := ← Tree.fieldOr fields "master" Tree.flag? absent.master }

def toTree (e : Endpoint) : Tree := .table [
  ("host", .text e.host),
  ("port", .ofNat e.port.toNat),
  ("user", .text e.user),
  ("database", .text e.database),
  ("sslmode", .text e.sslmode),
  ("master", .flag e.master)]

def withoutPassword (e : Endpoint) : Endpoint := { e with password := none }

end Endpoint

namespace ScrapeConfig

/-- The fields of the section in their order. -/
def fieldNames : List String :=
  ["metric_prefix", "constant_labels", "disable_default_metrics", "disable_settings_metrics",
    "user_queries_path", "max_concurrent_scrapes"]

def ofTree? (t : Tree) : Option ScrapeConfig := do
  let fields ← t.fields? fieldNames
  let labels (t : Tree) : Option (Dict String String) := (t.entries? Tree.text?).map .ofList
  return {
    metricPrefix := ← Tree.fieldOr fields "metric_prefix" Tree.text? standard.metricPrefix
    constantLabels := ← Tree.fieldOr fields "constant_labels" labels standard.constantLabels
    disableDefaultMetrics :=
      ← Tree.fieldOr fields "disable_default_metrics" Tree.flag? standard.disableDefaultMetrics
    disableSettingsMetrics :=
      ← Tree.fieldOr fields "disable_settings_metrics" Tree.flag? standard.disableSettingsMetrics
    userQueriesPath :=
      ← Tree.fieldOr fields "user_queries_path" (fun t => t.text?.map some) standard.userQueriesPath
    maxConcurrentScrapes :=
      ← Tree.fieldOr fields "max_concurrent_scrapes" Tree.word64? standard.maxConcurrentScrapes }

/-- The entry of the user's file, if there is one. -/
def pathEntries (c : ScrapeConfig) : List (String × Tree) :=
  c.userQueriesPath.toList.map fun path => ("user_queries_path", .text path)

def toTree (c : ScrapeConfig) : Tree := .table ([
    ("metric_prefix", .text c.metricPrefix),
    ("constant_labels", .table (c.constantLabels.toList.map fun e => (e.1, .text e.2))),
    ("disable_default_metrics", .flag c.disableDefaultMetrics),
    ("disable_settings_metrics", .flag c.disableSettingsMetrics)] ++
  c.pathEntries ++
  [("max_concurrent_scrapes", .ofNat c.maxConcurrentScrapes.toNat)])

end ScrapeConfig

namespace PoolConfig

/-- The fields of the section in their order. -/
def fieldNames : List String :=
  ["retry_attempts", "retry_backoff_ms", "connect_timeout_secs", "statement_timeout_secs"]

def ofTree? (t : Tree) : Option PoolConfig := do
  let fields ← t.fields? fieldNames
  return {
    retryAttempts := ← Tree.fieldOr fields "retry_attempts" Tree.word32? standard.retryAttempts
    retryBackoffMs := ← Tree.fieldOr fields "retry_backoff_ms" Tree.word64? standard.retryBackoffMs
    connectTimeoutSecs :=
      ← Tree.fieldOr fields "connect_timeout_secs" Tree.word64? standard.connectTimeoutSecs
    statementTimeoutSecs :=
      ← Tree.fieldOr fields "statement_timeout_secs" Tree.word64? standard.statementTimeoutSecs }

def toTree (p : PoolConfig) : Tree := .table [
  ("retry_attempts", .ofNat p.retryAttempts.toNat),
  ("retry_backoff_ms", .ofNat p.retryBackoffMs.toNat),
  ("connect_timeout_secs", .ofNat p.connectTimeoutSecs.toNat),
  ("statement_timeout_secs", .ofNat p.statementTimeoutSecs.toNat)]

end PoolConfig

namespace HttpConfig

/-- The fields of the section in their order. -/
def fieldNames : List String := ["listen_address", "telemetry_path"]

def ofTree? (t : Tree) : Option HttpConfig := do
  let fields ← t.fields? fieldNames
  return {
    listenAddress := ← Tree.fieldOr fields "listen_address" Tree.text? standard.listenAddress
    telemetryPath := ← Tree.fieldOr fields "telemetry_path" Tree.text? standard.telemetryPath }

def toTree (h : HttpConfig) : Tree := .table [
  ("listen_address", .text h.listenAddress),
  ("telemetry_path", .text h.telemetryPath)]

end HttpConfig

namespace LoggingConfig

/-- The fields of the section in their order. -/
def fieldNames : List String := ["level", "format", "colors", "source_location"]

def ofTree? (t : Tree) : Option LoggingConfig := do
  let fields ← t.fields? fieldNames
  return {
    level := ← Tree.fieldOr fields "level" Tree.text? standard.level
    format := ← Tree.fieldOr fields "format" Tree.text? standard.format
    colors := ← Tree.fieldOr fields "colors" Tree.flag? standard.colors
    sourceLocation := ← Tree.fieldOr fields "source_location" Tree.flag? standard.sourceLocation }

def toTree (l : LoggingConfig) : Tree := .table [
  ("level", .text l.level),
  ("format", .text l.format),
  ("colors", .flag l.colors),
  ("source_location", .flag l.sourceLocation)]

end LoggingConfig

namespace Config

def fieldNames : List String := ["exporter", "endpoints", "pool", "http", "logging"]

/-- The configuration that a tree stands for. -/
def ofTree? (t : Tree) : Option Config := do
  let fields ← t.fields? fieldNames
  return {
    exporter := ← Tree.fieldOr fields "exporter" ScrapeConfig.ofTree? standard.exporter
    endpoints := ← Tree.fieldOr fields "endpoints" (·.items? Endpoint.ofTree?) standard.endpoints
    pool := ← Tree.fieldOr fields "pool" PoolConfig.ofTree? standard.pool
    http := ← Tree.fieldOr fields "http" HttpConfig.ofTree? standard.http
    logging := ← Tree.fieldOr fields "logging" LoggingConfig.ofTree? standard.logging }

/-- The tree that says everything but the passwords. -/
def toTree (c : Config) : Tree := .table [
  ("exporter", c.exporter.toTree),
  ("endpoints", .list (c.endpoints.map Endpoint.toTree)),
  ("pool", c.pool.toTree),
  ("http", c.http.toTree),
  ("logging", c.logging.toTree)]

def withoutPasswords (c : Config) : Config :=
  { c with endpoints := c.endpoints.map Endpoint.withoutPassword }

end Config

end PgMetrics
