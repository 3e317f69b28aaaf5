import PgMetrics.Database.World
import PgMetrics.Mapping.Catalog
import PgMetrics.Scrape.Cache
import PgMetrics.Version.Banner

/-!
# Servers

A server that was connected to: its labels, the plan for the last version that it reported, and its
cache. Servers are told apart by their serial number.

## Main definitions

* `Server.open`: the server behind a new connection.
* `Server.ping`: a server that does not answer is closed.
* `Server.detectVersion`, `Server.refresh`: the plan follows the version that the server reports.
-/

namespace PgMetrics

/-- The label that every metric of a server carries. -/
def serverLabel : String := "server"

/-- The query that asks for the version banner. -/
def versionQuery : String := "SELECT version();"

/-- A banner and the version in it. -/
structure VersionInfo where
  banner : String
  version : Version
  deriving DecidableEq, Repr

/-- A server that was connected to. -/
structure Server where
  serial : Nat
  fingerprint : String
  labels : Dict String String
  master : Bool
  plan : Plan
  cache : Cache
  deriving Inhabited

namespace Server

/-- The server behind a new connection. The label with its fingerprint goes over a constant label of
the same name. -/
def «open» (serial : Nat) (e : Endpoint) (constantLabels : Dict String String) : Server :=
  { serial
    fingerprint := e.fingerprint
    labels := constantLabels.insert serverLabel e.fingerprint
    master := e.master
    plan := .initial
    cache := .empty }

variable {δ : Type}

/-- Checks that the server answers; one that does not is closed. -/
def ping (b : Backend δ) (s : Server) (w : World δ) : Except ConnectionError Unit × World δ :=
  match w.ping b s.fingerprint with
  | (.ok (), w) => (.ok (), w)
  | (.error e, w) => (.error (.ping s.fingerprint e), w.close b s.fingerprint)

/-- The banner in the answer to the version query: the first cell of the first row. -/
def bannerOf? (r : ResultSet) : Option String := do
  let row ← r.rows.head?
  let v ← row.head?
  return v.label

/-- The version in the answer to the version query. -/
def versionOf (fingerprint : String) (answer : Except DbError ResultSet) :
    Except QueryError VersionInfo :=
  match answer with
  | .error e => .error (.version fingerprint e.message)
  | .ok r =>
    match bannerOf? r with
    | none => .error (.version fingerprint "empty result")
    | some banner =>
      match Banner.parse banner.toList with
      | .ok v => .ok ⟨banner, v⟩
      | .error text =>
        .error (.version fingerprint (BannerError.message ⟨String.ofList text⟩))

/-- Asks the server for its version. -/
def detectVersion (b : Backend δ) (s : Server) (w : World δ) :
    Except QueryError VersionInfo × World δ :=
  let (answer, w) := w.query b s.fingerprint versionQuery
  (versionOf s.fingerprint answer, w)

/-- The server with a plan for version `v`; a plan that is for `v` already is kept. -/
def withVersion (s : Server) (c : Catalog) (v : Version) : Server :=
  if s.plan.version = some v then s else { s with plan := c.compile v s.labels }

/-- Asks for the version and brings the plan up to date. If there is no answer the plan stays. -/
def refresh (b : Backend δ) (c : Catalog) (s : Server) (w : World δ) :
    Except QueryError VersionInfo × Server × World δ :=
  match s.detectVersion b w with
  | (.ok info, w) => (.ok info, s.withVersion c info.version, w)
  | (.error e, w) => (.error e, s, w)

end Server

end PgMetrics
