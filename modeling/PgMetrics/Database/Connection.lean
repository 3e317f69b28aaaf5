import PgMetrics.Database.Endpoint
import PgMetrics.Database.Wire

/-!
# Connections to a server

A connection is described without being opened, so only the mode of its protection can be wrong at
that time. Whether the server can be reached, and whether it admits the user, shows at the first
ping.

## Main definitions

* `Endpoint.sslMode`: the mode that an endpoint asks for.
* `RemoteServer`, `RemoteServer.ping`, `RemoteServer.query`.
-/

namespace PgMetrics

/-- The mode that an endpoint asks for. -/
def Endpoint.sslMode (e : Endpoint) : Except DbError SslMode :=
  match SslMode.parse? e.sslmode with
  | some mode => .ok mode
  | none => .error (.connect ("invalid sslmode " ++ Text.quoted e.sslmode))

/-- Whether packets find a way to a server. -/
inductive Network where
  | reachable
  | unreachable
  deriving DecidableEq, Repr

/-- Where a server refuses a statement. -/
inductive StatementFault where
  | execution (message : String)
  /-- In telling the columns, which is asked of statements without rows. -/
  | description (message : String)
  deriving DecidableEq, Repr

/-- A server as it is seen from the other end of a connection. -/
structure RemoteServer where
  network : Network
  /-- The message with which the server turns the user away. -/
  refusal : Option String
  fault : Option StatementFault
  columns : List Wire.Column
  rows : List (List Wire.Cell)

namespace RemoteServer

/-- A fault that the server reports. -/
def reported (message : String) : String := "error returned from database: " ++ message

/-- Opens a connection, if there is none, and asks for a sign of life. -/
def ping (s : RemoteServer) : Except DbError Unit :=
  match s.network, s.refusal with
  | .unreachable, _ =>
    .error (.connect
      "error communicating with database: Network is unreachable (os error 101)")
  | .reachable, some message => .error (.connect (reported message))
  | .reachable, none => .ok ()

def decoded (s : RemoteServer) : Except DbError ResultSet := do
  return ⟨s.columns.map (·.name), ← s.rows.mapM (Wire.decodeRow s.columns)⟩

/-- Runs a statement and decodes its result, row by row. -/
def query (s : RemoteServer) : Except DbError ResultSet :=
  match s.fault with
  | some (.execution message) => .error (.query (reported message))
  | some (.description message) =>
    if s.rows.isEmpty then .error (.columns (reported message)) else s.decoded
  | none => s.decoded

end RemoteServer

end PgMetrics
