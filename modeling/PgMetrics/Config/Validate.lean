import PgMetrics.Config.Basic
import PgMetrics.Fault.Config
import PgMetrics.Net.SocketAddress

/-!
# Valid configurations

The conditions on a configuration are checked in a fixed order, and the first that fails is
reported: the stem, the constant labels, the numbers, the web address, and the endpoints in their
order, each for a blank host before one that was seen already.

## Main definitions

* `isIdentifier`: names of ASCII letters, digits and underscores.
* `Config.validate`: the first condition that fails.
-/

namespace PgMetrics

/-- Whether `c` may start an identifier. -/
def startsIdentifier (c : Char) : Bool := c.isAlpha || c == '_'

/-- Whether a text is an identifier of ASCII letters, digits and underscores. -/
def isIdentifier (s : List Char) : Bool :=
  match s with
  | [] => false
  | c :: rest => startsIdentifier c && rest.all fun d => startsIdentifier d || d.isDigit

/-- The greatest number of servers that may be scraped at once. -/
def greatestConcurrency : UInt64 := 64

namespace Config

/-- The error of a field whose value is not admitted. -/
def require (holds : Bool) (field message : String) : Except ConfigError Unit :=
  if holds then .ok () else .error (.invalidValue field message)

def checkStem (stem : String) : Except ConfigError Unit :=
  require (stem.isEmpty || isIdentifier stem.toList) "exporter.metric_prefix"
    ("'" ++ stem ++ "' is not a valid metric name prefix")

/-- The name of a constant label; the label of the server is reserved, and so are names that begin
with two underscores. -/
def checkLabel (name : String) : Except ConfigError Unit := do
  require (name != serverLabel) "exporter.constant_labels" ("'" ++ serverLabel ++ "' is reserved")
  require (isIdentifier name.toList && !(['_', '_'].isPrefixOf name.toList))
    "exporter.constant_labels" ("'" ++ name ++ "' is not a valid label name")

/-- The place of an endpoint, for error texts. -/
def endpointPlace (i : Nat) : String := "endpoints[" ++ Text.decimalText i ++ "]"

/-- The endpoints from place `i` on, after those whose fingerprints are `seen`. -/
def checkEndpoints (seen : List String) (i : Nat) : List Endpoint → Except ConfigError Unit
  | [] => .ok ()
  | e :: rest =>
    if Text.isBlankText e.host then .error (.missingField (endpointPlace i ++ ".host"))
    else if e.fingerprint ∈ seen then
      .error (.invalidValue (endpointPlace i) ("duplicate endpoint " ++ e.fingerprint))
    else checkEndpoints (e.fingerprint :: seen) (i + 1) rest

def validate (c : Config) : Except ConfigError Unit := do
  checkStem c.exporter.metricPrefix
  c.exporter.constantLabels.keys.forM checkLabel
  let scrapes := c.exporter.maxConcurrentScrapes
  require (1 ≤ scrapes && scrapes ≤ greatestConcurrency)
    "exporter.max_concurrent_scrapes"
    ("must be between 1 and " ++ Text.decimalText greatestConcurrency.toNat)
  require (c.pool.retryAttempts != 0) "pool.retry_attempts" "must be at least 1"
  require (['/'].isPrefixOf c.http.telemetryPath.toList) "http.telemetry_path"
    "must start with '/'"
  require (SocketAddress.parse? c.http.listenAddress).isSome "http.listen_address"
    ("'" ++ c.http.listenAddress ++ "' is not a socket address")
  checkEndpoints [] 0 c.endpoints

end Config

end PgMetrics
