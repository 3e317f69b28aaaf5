import PgMetrics.Database.Endpoint
import PgMetrics.Fault.Scrape
import PgMetrics.Time.Span
import PgMetrics.Value.Basic

/-!
# Databases as seen from outside

How databases behave is left open: a `Backend` says how the state of one database answers and
changes when it is connected to, pinged, queried and closed. A `World` holds the state of every
database by fingerprint and a log of what was done. Each operation touches one database only.

## Main definitions

* `Backend`, `World`, `Event`.
* `World.connect`, `World.ping`, `World.query`, `World.close`, `World.sleep`.
-/

namespace PgMetrics

/-- How the state of a database answers and changes. -/
structure Backend (δ : Type) where
  connect : Endpoint → δ → Except DbError Unit × δ
  ping : δ → Except DbError Unit × δ
  query : String → δ → Except DbError ResultSet × δ
  close : δ → δ

/-- What was done, and for connections and pings whether it succeeded. -/
inductive Event where
  | connect (server : String) (opened : Bool)
  | ping (server : String) (alive : Bool)
  | query (server sql : String)
  | close (server : String)
  | sleep (span : Span)
  deriving DecidableEq

/-- The databases by fingerprint and what was done so far. -/
structure World (δ : Type) where
  databases : String → δ
  log : List Event

namespace World

variable {δ : Type}

/-- Changes the state of one database. -/
def set (w : World δ) (server : String) (d : δ) : World δ :=
  { w with databases := fun s => if s = server then d else w.databases s }

def note (w : World δ) (e : Event) : World δ := { w with log := w.log ++ [e] }

def connect (b : Backend δ) (e : Endpoint) (w : World δ) : Except DbError Unit × World δ :=
  let (answer, d) := b.connect e (w.databases e.fingerprint)
  (answer, (w.set e.fingerprint d).note (.connect e.fingerprint answer.isOk))

def ping (b : Backend δ) (server : String) (w : World δ) : Except DbError Unit × World δ :=
  let (answer, d) := b.ping (w.databases server)
  (answer, (w.set server d).note (.ping server answer.isOk))

def query (b : Backend δ) (server sql : String) (w : World δ) :
    Except DbError ResultSet × World δ :=
  let (answer, d) := b.query sql (w.databases server)
  (answer, (w.set server d).note (.query server sql))

def close (b : Backend δ) (server : String) (w : World δ) : World δ :=
  (w.set server (b.close (w.databases server))).note (.close server)

def sleep (span : Span) (w : World δ) : World δ := w.note (.sleep span)

end World

end PgMetrics
