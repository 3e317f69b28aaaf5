import PgMetrics.Database.Endpoint
import PgMetrics.Dict
import PgMetrics.Server.Registry

/-!
# Configuration

## Main definitions

* `Config` and its sections, with their defaults.
* `PoolConfig.retryPolicy`: the attempts that the pool section asks for.
-/

namespace PgMetrics

/-- What is exported and how. -/
structure ScrapeConfig where
  /-- The stem of all exported names. -/
  metricPrefix : String
  /-- Labels that every metric carries. -/
  constantLabels : Dict String String
  disableDefaultMetrics : Bool
  disableSettingsMetrics : Bool
  /-- The file with the user's namespaces. -/
  userQueriesPath : Option String
  maxConcurrentScrapes : UInt64

/-- How connections are made. -/
structure PoolConfig where
  retryAttempts : UInt32
  retryBackoffMs : UInt64
  connectTimeoutSecs : UInt64
  /-- Zero turns the timeout off. -/
  statementTimeoutSecs : UInt64
  deriving DecidableEq, Repr

/-- Where metrics are served. -/
structure HttpConfig where
  listenAddress : String
  telemetryPath : String
  deriving DecidableEq, Repr

/-- How the log is written. -/
structure LoggingConfig where
  level : String
  format : String
  colors : Bool
  sourceLocation : Bool
  deriving DecidableEq, Repr

/-- The whole configuration. -/
structure Config where
  exporter : ScrapeConfig
  endpoints : List Endpoint
  pool : PoolConfig
  http : HttpConfig
  logging : LoggingConfig

namespace ScrapeConfig

/-- The stem `pg`, everything exported, four servers at once. -/
def standard : ScrapeConfig := ⟨"pg", .empty, false, false, none, 4⟩

instance : Inhabited ScrapeConfig := ⟨standard⟩

end ScrapeConfig

namespace PoolConfig

/-- Three attempts, a second apart, ten seconds to connect and no limit for statements. -/
def standard : PoolConfig := ⟨3, 1000, 10, 0⟩

instance : Inhabited PoolConfig := ⟨standard⟩

/-- The attempts and waits that the section asks for. -/
def retryPolicy (p : PoolConfig) : RetryPolicy := ⟨p.retryAttempts, .ofMillis p.retryBackoffMs⟩

end PoolConfig

namespace HttpConfig

def standard : HttpConfig := ⟨"0.0.0.0:9187", "/metrics"⟩

instance : Inhabited HttpConfig := ⟨standard⟩

end HttpConfig

namespace LoggingConfig

/-- Coloured lines from the level info on. -/
def standard : LoggingConfig := ⟨"info", "pretty", true, false⟩

instance : Inhabited LoggingConfig := ⟨standard⟩

end LoggingConfig

namespace Config

def standard : Config := ⟨.standard, [], .standard, .standard, .standard⟩

instance : Inhabited Config := ⟨standard⟩

end Config

end PgMetrics
