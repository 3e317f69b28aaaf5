import PgMetrics.Database.World
import PgMetrics.Scrape.Settings
import PgMetrics.Server.Basic

/-!
# Scripted databases

A scripted database answers from a list: the first entry whose pattern fits the text of a query
gives the answer. It can be told to fail a number of connections and pings, and it stays closed
from the moment it is closed until it is connected to again.

## Main definitions

* `ScriptedDatabase`, `SqlPattern`, `ScriptedAnswer`.
* `ScriptedDatabase.backend`: the behaviour. Where there is no database nothing can connect.
* `ScriptedDatabase.revise`: changes to the script on the way.
-/

namespace PgMetrics

/-- Which queries an answer is for. -/
inductive SqlPattern where
  | exact (sql : String)
  | contains (part : String)

/-- Whether a query fits the pattern. -/
def SqlPattern.fits (sql : String) : SqlPattern → Bool
  | .exact wanted => sql == wanted
  | .contains part => Text.occursIn part.toList sql.toList

/-- An answer and the queries that it is for. -/
structure ScriptedAnswer where
  pattern : SqlPattern
  answer : Except DbError ResultSet

/-- What was done to a database. -/
structure Activity where
  connects : Nat
  pings : Nat
  closes : Nat
  /-- The queries that reached it. -/
  executed : List String
  deriving DecidableEq, Repr

def Activity.none : Activity := ⟨0, 0, 0, []⟩

/-- A database that answers from a list. -/
structure ScriptedDatabase where
  banner : String
  connectFailures : Nat
  pingFailures : Nat
  closed : Bool
  answers : List ScriptedAnswer
  activity : Activity

namespace ScriptedDatabase

/-- A database that only knows its banner, which is empty. -/
def blank : ScriptedDatabase := ⟨"", 0, 0, false, [], .none⟩

/-- Changes the record of what was done. -/
def noting (d : ScriptedDatabase) (f : Activity → Activity) : ScriptedDatabase :=
  { d with activity := f d.activity }

def forget (d : ScriptedDatabase) : ScriptedDatabase := { d with activity := .none }

def connect (d : ScriptedDatabase) : Except DbError Unit × ScriptedDatabase :=
  let d := d.noting fun a => { a with connects := a.connects + 1 }
  if d.connectFailures = 0 then (.ok (), { d with closed := false })
  else (.error (.connect "too many clients"), { d with connectFailures := d.connectFailures - 1 })

def ping (d : ScriptedDatabase) : Except DbError Unit × ScriptedDatabase :=
  let d := d.noting fun a => { a with pings := a.pings + 1 }
  if d.closed then (.error .closed, d)
  else if d.pingFailures = 0 then (.ok (), d)
  else (.error (.connect "connection refused"), { d with pingFailures := d.pingFailures - 1 })

/-- The answer to the version query where the list has none. -/
def bannerAnswer (d : ScriptedDatabase) : ResultSet := ⟨["version"], [[.text d.banner]]⟩

def query (sql : String) (d : ScriptedDatabase) : Except DbError ResultSet × ScriptedDatabase :=
  if d.closed then (.error .closed, d)
  else
    let d := d.noting fun a => { a with executed := a.executed ++ [sql] }
    match d.answers.find? fun a => a.pattern.fits sql with
    | some a => (a.answer, d)
    | none =>
      if sql = versionQuery then (.ok d.bannerAnswer, d)
      else (.error (.query "no scripted response"), d)

/-- The database after it was closed. -/
def close (d : ScriptedDatabase) : ScriptedDatabase :=
  { d with closed := true }.noting fun a => { a with closes := a.closes + 1 }

/-- How a database behaves that may be missing. -/
def backend : Backend (Option ScriptedDatabase) where
  connect e
    | none => (.error (.connect ("no route to " ++ e.fingerprint)), none)
    | some d => (d.connect.1, some d.connect.2)
  ping
    | none => (.error .closed, none)
    | some d => (d.ping.1, some d.ping.2)
  query sql
    | none => (.error .closed, none)
    | some d => ((d.query sql).1, some (d.query sql).2)
  close
    | none => none
    | some d => some d.close

/-- What is changed in a script; what is not given stays. -/
structure Revision where
  banner : Option String
  connectFailures : Option Nat
  pingFailures : Option Nat
  closed : Option Bool
  /-- Replaces the answers. -/
  answers : Option (List ScriptedAnswer)
  /-- Goes before the answers. -/
  earlier : List ScriptedAnswer

def revise (d : ScriptedDatabase) (r : Revision) : ScriptedDatabase :=
  { d with
    banner := r.banner.getD d.banner
    connectFailures := r.connectFailures.getD d.connectFailures
    pingFailures := r.pingFailures.getD d.pingFailures
    closed := r.closed.getD d.closed
    answers := r.earlier ++ r.answers.getD d.answers }

def ofScript (r : Revision) : ScriptedDatabase := blank.revise r

end ScriptedDatabase

/-- The databases of a script, by fingerprint. -/
def World.scripted (databases : Dict String ScriptedDatabase) :
    World (Option ScriptedDatabase) :=
  ⟨databases.get?, []⟩

end PgMetrics
