import PgMetrics.Fault.Config
import PgMetrics.Fault.Scrape

/-!
# Faults of the whole program

## Main definitions

* `Fault`: the sum of all faults, with its wording.
* `Fault.category`, `Fault.isRecoverable`, `Fault.remedy`: how a fault is classed.
-/

namespace PgMetrics

/-- Why the exposition of a pass failed. -/
inductive ExpositionError where
  /-- A name or label that the format does not admit. -/
  | invalidName (name : String)
  /-- A family without a name. -/
  | unnamedFamily
  /-- A family without samples. -/
  | emptyFamily (name : String)
  deriving DecidableEq, Repr

def ExpositionError.message : ExpositionError → String
  | .invalidName name => "'" ++ name ++ "' is not a valid name"
  | .unnamedFamily => "a metric family has no name"
  | .emptyFamily name => "the metric family " ++ name ++ " has no metrics"

/-- A fault of any part of the program. -/
inductive Fault where
  | config (e : ConfigError)
  | connection (e : ConnectionError)
  | query (e : QueryError)
  | settings (e : SettingsError)
  | version (e : BannerError)
  | registry (e : ExpositionError)
  | file (message : String)
  | internal (message : String)
  deriving DecidableEq, Repr

/-- What can be done about a fault. -/
inductive Remedy where
  | retryWithBackoff | reconnect | fixConfiguration | skip
  deriving DecidableEq, Repr

namespace Fault

/-- The class under which a fault is logged. -/
def category : Fault → String
  | .config _ => "config"
  | .connection _ => "connection"
  | .query _ => "query"
  | .settings _ => "settings"
  | .version _ => "version"
  | .registry _ => "registry"
  | .file _ => "io"
  | .internal _ => "internal"

/-- Whether a later pass may succeed without a change by hand. -/
def isRecoverable : Fault → Bool
  | .config _ => false
  | .connection _ => true
  | .query _ => true
  | .settings e => !e.isDefect
  | .version _ => true
  | .registry _ => false
  | .file _ => true
  | .internal _ => false

/-- What to do about a fault. -/
def remedy : Fault → Remedy
  | .config _ => .fixConfiguration
  | .registry _ => .fixConfiguration
  | .connection _ => .reconnect
  | .settings e => if e.isDefect then .fixConfiguration else .skip
  | .query _ => .skip
  | .version _ => .retryWithBackoff
  | .file _ => .retryWithBackoff
  | .internal _ => .retryWithBackoff

def message : Fault → String
  | .config e => "Configuration error: " ++ e.message
  | .connection e => "Connection error: " ++ e.message
  | .query e => "Query error: " ++ e.message
  | .settings e => "Settings error: " ++ e.message
  | .version e => "Version error: " ++ e.message
  | .registry e => "Metrics registry error: " ++ e.message
  | .file m => "IO error: " ++ m
  | .internal m => "Internal error: " ++ m

end Fault

def Remedy.name : Remedy → String
  | .retryWithBackoff => "RetryWithBackoff"
  | .reconnect => "Reconnect"
  | .fixConfiguration => "FixConfiguration"
  | .skip => "Skip"

end PgMetrics
