import PgMetrics.Database.World

/-!
# What is done with one server

The log of a world tells of all servers. Here it is read for one of them. Every operation on a
server leaves the databases and the events of the other servers alone, and gives the same answer in
worlds that are the same for its server.

## Main definitions

* `World.eventsOf`, `World.queriesTo`, `World.connectionsTo` — the log for one server.
* `World.SameFor` — worlds that are the same for a server.
* `World.ask` — the world after a list of queries.
-/

namespace PgMetrics

/-- The server that an event is about; a wait is about none. -/
def Event.server? : Event → Option String
  | .connect server _ | .ping server _ | .query server _ | .close server => some server
  | .sleep _ => none

def Event.sql? : Event → Option String
  | .query _ sql => some sql
  | _ => none

/-- What an event adds to the open connections of a server. -/
def Event.opens (server : String) : Event → Int
  | .connect s true => if s = server then 1 else 0
  | .close s => if s = server then -1 else 0
  | _ => 0

namespace World

variable {δ : Type} {u v w : World δ} {server other : String}

/-! ## The log for one server -/

def eventsOf (w : World δ) (server : String) : List Event :=
  w.log.filter fun e => e.server? == some server

/-- The SQL that a server was asked, in order. -/
def queriesTo (w : World δ) (server : String) : List String :=
  (w.eventsOf server).filterMap Event.sql?

/-- The connections to a server that were opened, less those that were closed. -/
def connectionsTo (w : World δ) (server : String) : Int :=
  w.log.count (.connect server true) - w.log.count (.close server)

theorem eventsOf_note (w : World δ) (e : Event) (server : String) :
    (w.note e).eventsOf server =
      w.eventsOf server ++ if e.server? = some server then [e] else [] := by
  unfold eventsOf note
  by_cases about : e.server? = some server <;> simp [about]

theorem queriesTo_note (w : World δ) (e : Event) (server : String) :
    (w.note e).queriesTo server =
      w.queriesTo server ++ if e.server? = some server then e.sql?.toList else [] := by
  unfold queriesTo
  rw [eventsOf_note, List.filterMap_append]
  by_cases about : e.server? = some server
  · cases sql : e.sql? <;> simp [about, sql]
  · simp [about]

@[simp]
theorem eventsOf_set (w : World δ) (changed server : String) (d : δ) :
    (w.set changed d).eventsOf server = w.eventsOf server := rfl

theorem connectionsTo_note (w : World δ) (e : Event) (server : String) :
    (w.note e).connectionsTo server = w.connectionsTo server + e.opens server := by
  unfold connectionsTo note
  simp only [List.count_append, List.count_singleton]
  cases e with
  | connect s opened =>
    cases opened with
    | false => simp [Event.opens]
    | true =>
      by_cases h : s = server
      · simp [Event.opens, h]
        omega
      · simp [Event.opens, h]
  | close s =>
    by_cases h : s = server
    · simp [Event.opens, h]
      omega
    · simp [Event.opens, h]
  | _ => simp [Event.opens]

@[simp]
theorem connectionsTo_set (w : World δ) (changed server : String) (d : δ) :
    (w.set changed d).connectionsTo server = w.connectionsTo server := rfl

@[simp]
theorem queriesTo_set (w : World δ) (changed server : String) (d : δ) :
    (w.set changed d).queriesTo server = w.queriesTo server := rfl

/-! ## Worlds that are the same for a server -/

/-- The database of the server is the same, and the same was done with it. -/
structure SameFor (server : String) (v w : World δ) : Prop where
  database : v.databases server = w.databases server
  events : v.eventsOf server = w.eventsOf server

theorem SameFor.refl (server : String) (w : World δ) : SameFor server w w := ⟨rfl, rfl⟩

theorem SameFor.symm (h : SameFor server v w) : SameFor server w v :=
  ⟨h.database.symm, h.events.symm⟩

theorem SameFor.trans (h : SameFor server u v) (g : SameFor server v w) : SameFor server u w :=
  ⟨h.database.trans g.database, h.events.trans g.events⟩

theorem SameFor.queries (h : SameFor server v w) : v.queriesTo server = w.queriesTo server :=
  congrArg (List.filterMap Event.sql?) h.events

/-- An event of the server that comes with a new state of its database. -/
theorem SameFor.touch (h : SameFor server v w) (d : δ) (e : Event) :
    SameFor server ((v.set server d).note e) ((w.set server d).note e) := by
  constructor
  · simp [note, set]
  · simp only [eventsOf_note, eventsOf_set, h.events]

theorem sameFor_touch (w : World δ) (d : δ) {e : Event} (about : e.server? = some server)
    (ne : other ≠ server) : SameFor other w ((w.set server d).note e) := by
  constructor
  · simp [note, set, ne]
  · simp [eventsOf_note, about, ne.symm]

theorem sameFor_sleep (w : World δ) (span : Span) (server : String) :
    SameFor server w (w.sleep span) := by
  refine ⟨rfl, ?_⟩
  unfold sleep
  simp [eventsOf_note, Event.server?]

section Operations

variable (b : Backend δ)

theorem sameFor_connect (e : Endpoint) (w : World δ) (ne : other ≠ e.fingerprint) :
    SameFor other w (w.connect b e).2 := sameFor_touch w _ rfl ne

theorem sameFor_ping (server : String) (w : World δ) (ne : other ≠ server) :
    SameFor other w (w.ping b server).2 := sameFor_touch w _ rfl ne

theorem sameFor_query (server sql : String) (w : World δ) (ne : other ≠ server) :
    SameFor other w (w.query b server sql).2 := sameFor_touch w _ rfl ne

theorem sameFor_close (server : String) (w : World δ) (ne : other ≠ server) :
    SameFor other w (w.close b server) := sameFor_touch w _ rfl ne

theorem SameFor.connect {e : Endpoint} (h : SameFor e.fingerprint v w) :
    (v.connect b e).1 = (w.connect b e).1 ∧
      SameFor e.fingerprint (v.connect b e).2 (w.connect b e).2 := by
  unfold World.connect
  rw [h.database]
  exact ⟨rfl, h.touch _ _⟩

theorem SameFor.ping (h : SameFor server v w) :
    (v.ping b server).1 = (w.ping b server).1 ∧
      SameFor server (v.ping b server).2 (w.ping b server).2 := by
  unfold World.ping
  rw [h.database]
  exact ⟨rfl, h.touch _ _⟩

theorem SameFor.query (sql : String) (h : SameFor server v w) :
    (v.query b server sql).1 = (w.query b server sql).1 ∧
      SameFor server (v.query b server sql).2 (w.query b server sql).2 := by
  unfold World.query
  rw [h.database]
  exact ⟨rfl, h.touch _ _⟩

theorem SameFor.close (h : SameFor server v w) :
    SameFor server (v.close b server) (w.close b server) := by
  unfold World.close
  rw [h.database]
  exact h.touch _ _

end Operations

theorem SameFor.sleep (h : SameFor server v w) (p q : Span) :
    SameFor server (v.sleep p) (w.sleep q) :=
  ((sameFor_sleep v p server).symm.trans h).trans (sameFor_sleep w q server)

/-! ## Open connections -/

section Connections

variable (b : Backend δ)

theorem connectionsTo_connect (e : Endpoint) (w : World δ) :
    (w.connect b e).2.connectionsTo e.fingerprint =
      w.connectionsTo e.fingerprint + if (w.connect b e).1.isOk then 1 else 0 := by
  unfold connect
  dsimp only
  rw [connectionsTo_note, connectionsTo_set]
  cases (b.connect e (w.databases e.fingerprint)).1 with
  | ok => simp [Event.opens, Except.isOk, Except.toBool]
  | error source => simp [Event.opens, Except.isOk, Except.toBool]

@[simp]
theorem connectionsTo_ping (w : World δ) (pinged server : String) :
    (w.ping b pinged).2.connectionsTo server = w.connectionsTo server := by
  unfold ping
  simp [connectionsTo_note, Event.opens]

@[simp]
theorem connectionsTo_query (w : World δ) (asked sql server : String) :
    (w.query b asked sql).2.connectionsTo server = w.connectionsTo server := by
  unfold query
  simp [connectionsTo_note, Event.opens]

theorem connectionsTo_close (w : World δ) (closed server : String) :
    (w.close b closed).connectionsTo server =
      w.connectionsTo server - if closed = server then 1 else 0 := by
  unfold close
  rw [connectionsTo_note, connectionsTo_set]
  by_cases h : closed = server
  · simp [Event.opens, h]
    omega
  · simp [Event.opens, h]

@[simp]
theorem connectionsTo_sleep (w : World δ) (span : Span) (server : String) :
    (w.sleep span).connectionsTo server = w.connectionsTo server := by
  unfold sleep
  simp [connectionsTo_note, Event.opens]

end Connections

theorem connectionsTo_eq_eventsOf (w : World δ) (server : String) :
    w.connectionsTo server = (w.eventsOf server).count (.connect server true) -
      (w.eventsOf server).count (.close server) := by
  have opened : (w.eventsOf server).count (.connect server true) =
      w.log.count (.connect server true) := List.count_filter (by simp [Event.server?])
  have closed : (w.eventsOf server).count (.close server) = w.log.count (.close server) :=
    List.count_filter (by simp [Event.server?])
  unfold connectionsTo
  rw [opened, closed]

theorem SameFor.connections (h : SameFor server v w) :
    v.connectionsTo server = w.connectionsTo server := by
  rw [connectionsTo_eq_eventsOf, connectionsTo_eq_eventsOf, h.events]

/-! ## Events that are no queries -/

section Queries

variable (b : Backend δ)

@[simp]
theorem queriesTo_connect (e : Endpoint) (w : World δ) (server : String) :
    (w.connect b e).2.queriesTo server = w.queriesTo server := by
  unfold connect
  simp [queriesTo_note, Event.sql?]

@[simp]
theorem queriesTo_ping (w : World δ) (pinged server : String) :
    (w.ping b pinged).2.queriesTo server = w.queriesTo server := by
  unfold ping
  simp [queriesTo_note, Event.sql?]

@[simp]
theorem queriesTo_close (w : World δ) (closed server : String) :
    (w.close b closed).queriesTo server = w.queriesTo server := by
  unfold close
  simp [queriesTo_note, Event.sql?]

@[simp]
theorem queriesTo_sleep (w : World δ) (span : Span) (server : String) :
    (w.sleep span).queriesTo server = w.queriesTo server := by
  unfold sleep
  simp [queriesTo_note, Event.sql?]

end Queries

/-! ## Asking a list of queries -/

/-- The world after a server was asked some queries, whatever it answered. -/
def ask (b : Backend δ) (server : String) (sqls : List String) (w : World δ) : World δ :=
  sqls.foldl (fun w sql => (w.query b server sql).2) w

section Ask

variable (b : Backend δ)

@[simp]
theorem ask_nil (server : String) (w : World δ) : w.ask b server [] = w := rfl

theorem ask_append (server : String) (sqls more : List String) (w : World δ) :
    w.ask b server (sqls ++ more) = (w.ask b server sqls).ask b server more :=
  List.foldl_append

theorem sameFor_ask (server : String) (sqls : List String) (w : World δ) (ne : other ≠ server) :
    SameFor other w (w.ask b server sqls) := by
  induction sqls generalizing w with
  | nil => exact .refl other w
  | cons sql rest ih => exact (sameFor_query b server sql w ne).trans (ih _)

@[simp]
theorem connectionsTo_ask (asked server : String) (sqls : List String) (w : World δ) :
    (w.ask b asked sqls).connectionsTo server = w.connectionsTo server := by
  induction sqls generalizing w with
  | nil => rfl
  | cons sql rest ih => exact (ih _).trans (connectionsTo_query b w asked sql server)

/-- Asking is in the log as it is asked. -/
theorem queriesTo_ask (server : String) (sqls : List String) (w : World δ) :
    (w.ask b server sqls).queriesTo server = w.queriesTo server ++ sqls := by
  induction sqls generalizing w with
  | nil => simp
  | cons sql rest ih =>
    have first : (w.query b server sql).2.queriesTo server = w.queriesTo server ++ [sql] := by
      unfold query
      rw [queriesTo_note, queriesTo_set]
      simp [Event.server?, Event.sql?]
    change ((w.query b server sql).2.ask b server rest).queriesTo server = _
    rw [ih, first, List.append_assoc, List.singleton_append]

end Ask

end World

end PgMetrics
