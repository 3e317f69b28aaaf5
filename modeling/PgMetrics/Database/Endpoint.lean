import PgMetrics.Text.Blank
import PgMetrics.Text.Number
import PgMetrics.Text.Quoted

/-!
# Endpoints

An endpoint says where a server is and how to log in. Its fingerprint, host and port, names the
server everywhere else. The password is shown nowhere.

## Main definitions

* `Endpoint`, `Endpoint.fingerprint`, `Endpoint.address`, `Endpoint.shown`.
* `SslMode.parse?`: the modes that a connection may ask for.
-/

namespace PgMetrics

/-- Where a server is and how to log in. -/
structure Endpoint where
  host : String
  port : UInt16
  user : String
  password : Option String
  database : String
  sslmode : String
  /-- Whether the server is a primary. -/
  master : Bool
  deriving DecidableEq, Repr

namespace Endpoint

/-- The port of a server that says nothing else. -/
def defaultPort : UInt16 := 5432

/-- A host with everything else left at its default. -/
def ofHost (host : String) : Endpoint :=
  ⟨host, defaultPort, "postgres", none, "postgres", "prefer", true⟩

def localhost : Endpoint := ofHost "localhost"

def fingerprint (e : Endpoint) : String := e.host ++ ":" ++ Text.decimalText e.port.toNat

/-- The address in the form of a locator. -/
def address (e : Endpoint) : String :=
  "postgresql://" ++ e.user ++ "@" ++ e.fingerprint ++ "/" ++ e.database

def hiddenPassword (e : Endpoint) : String :=
  if e.password.isSome then "Some(\"<redacted>\")" else "None"

/-- All fields but the password, for error texts. -/
def shown (e : Endpoint) : String :=
  "ConnectionDescriptor \x7b host: " ++ Text.quoted e.host ++
    ", port: " ++ Text.decimalText e.port.toNat ++
    ", user: " ++ Text.quoted e.user ++
    ", password: " ++ e.hiddenPassword ++
    ", database: " ++ Text.quoted e.database ++
    ", sslmode: " ++ Text.quoted e.sslmode ++
    ", master: " ++ (if e.master then "true" else "false") ++ " \x7d"

end Endpoint

/-- How a connection is protected. -/
inductive SslMode where
  | disable | allow | prefer | require | verifyCa | verifyFull
  deriving DecidableEq, Repr

/-- The mode with the given name, in any case. -/
def SslMode.parse? (s : String) : Option SslMode :=
  [("disable", SslMode.disable), ("allow", .allow), ("prefer", .prefer), ("require", .require),
    ("verify-ca", .verifyCa), ("verify-full", .verifyFull)].lookup
    (String.ofList (s.toList.map Text.lowerAscii))

end PgMetrics
