import PgMetrics.Server.Registry

/-!
# Sessions with held servers

A client of the registry may hold the servers that it got. As long as the registry has the same
server the two change together; after the registry dropped it the client has it for itself.

## Main definitions

* `Session`, `Session.held?`, `Session.save`.
* `Session.acquire`: gets a server from the registry and holds it.
-/

namespace PgMetrics

/-- A registry and the servers that a client holds, by fingerprint. -/
structure Session where
  registry : Registry
  handles : Dict String Server

namespace Session

variable {δ : Type}

/-- A session in which nothing is held. -/
def start (registry : Registry) : Session := ⟨registry, .empty⟩

/-- The held server of a fingerprint. -/
def held? (x : Session) (fingerprint : String) : Option Server := x.handles.get? fingerprint

/-- Whether the registry has the server `s` and not another one in its place. -/
def isRegistered (x : Session) (s : Server) : Bool :=
  match x.registry.servers.get? s.fingerprint with
  | some r => r.serial == s.serial
  | none => false

/-- Writes the new state of a held server back, also to the registry if that has the server. -/
def save (x : Session) (s : Server) : Session :=
  { registry := if x.isRegistered s then x.registry.put s else x.registry
    handles := x.handles.insert s.fingerprint s }

/-- A server that was acquired, and whether it is the one that was held before. -/
structure Acquired where
  server : Server
  sameAsHeld : Option Bool

/-- Gets a server from the registry and holds it. -/
def acquire (b : Backend δ) (e : Endpoint) (x : Session) (w : World δ) :
    Except ConnectionError Acquired × Session × World δ :=
  match x.registry.acquire b e w with
  | (.error error, registry, w) => (.error error, { x with registry }, w)
  | (.ok server, registry, w) =>
    let same := (x.held? e.fingerprint).map fun h => h.serial == server.serial
    (.ok ⟨server, same⟩, ⟨registry, x.handles.insert e.fingerprint server⟩, w)

end Session

end PgMetrics
