import PgMetrics.Proofs.Database.World

/-!
# Databases that do not change

A database may have a state that changes whenever it is used, and still look the same from outside:
its pings succeed, and a query has the same answer whenever it is asked. Whether a connection can be
opened is left open.

## Main definitions

* `Answers` — what a database answers to its queries.
* `Backend.Leads` — what may become of the state of a database that is used.
* `Backend.Steady`, `World.Steady` — databases that always answer the same.
-/

namespace PgMetrics

variable {δ : Type}

/-- The answer to each query. -/
abbrev Answers := String → Except DbError ResultSet

namespace Backend

/-- What the state of a database may become by connections, pings and queries. -/
inductive Leads (b : Backend δ) (server : String) (d : δ) : δ → Prop
  | refl : Leads b server d d
  | connect {d' : δ} (h : Leads b server d d') {e : Endpoint} (own : e.fingerprint = server) :
      Leads b server d (b.connect e d').2
  | ping {d' : δ} (h : Leads b server d d') : Leads b server d (b.ping d').2
  | query {d' : δ} (h : Leads b server d d') (sql : String) : Leads b server d (b.query sql d').2

theorem Leads.trans {b : Backend δ} {server : String} {d d' d'' : δ} (h : b.Leads server d d')
    (g : b.Leads server d' d'') : b.Leads server d d'' := by
  induction g with
  | refl => exact h
  | connect _ own ih => exact ih.connect own
  | ping _ ih => exact ih.ping
  | query _ sql ih => exact ih.query sql

/-- However the database is used, pings succeed and queries are answered as it is said. -/
def Steady (b : Backend δ) (server : String) (answer : Answers) (d : δ) :
    Prop :=
  ∀ d', b.Leads server d d' → (b.ping d').1 = .ok () ∧ ∀ sql, (b.query sql d').1 = answer sql

theorem Steady.of_leads {b : Backend δ} {server : String}
    {answer : Answers} {d d' : δ} (h : b.Steady server answer d)
    (g : b.Leads server d d') : b.Steady server answer d' :=
  fun d'' later => h d'' (g.trans later)

/-- The database that gives the answers and has no state. -/
def constant (answer : Answers) : Backend Unit where
  connect _ _ := (.ok (), ())
  ping _ := (.ok (), ())
  query sql _ := (answer sql, ())
  close _ := ()

theorem steady_constant (answer : Answers) (server : String) :
    (constant answer).Steady server answer () :=
  fun _ _ => ⟨rfl, fun _ => rfl⟩

end Backend

namespace World

/-- The database of a server always answers the same. -/
def Steady (b : Backend δ) (server : String) (answer : Answers)
    (w : World δ) : Prop :=
  b.Steady server answer (w.databases server)

section Steady

variable {b : Backend δ} {server : String} {answer : Answers}
  {v w : World δ}

theorem Steady.of_sameFor (h : v.Steady b server answer) (same : SameFor server v w) :
    w.Steady b server answer := by
  unfold Steady at h ⊢
  rwa [← same.database]

theorem databases_touch (w : World δ) (server : String) (d : δ) (e : Event) :
    ((w.set server d).note e).databases server = d := by
  unfold note set
  exact if_pos rfl

theorem Steady.touch (h : w.Steady b server answer) {d : δ}
    (leads : b.Leads server (w.databases server) d) (e : Event) :
    ((w.set server d).note e).Steady b server answer := by
  unfold Steady
  rw [databases_touch]
  exact h.of_leads leads

theorem Steady.connect {e : Endpoint} (h : w.Steady b e.fingerprint answer) :
    (w.connect b e).2.Steady b e.fingerprint answer :=
  h.touch (.connect .refl rfl) _

theorem Steady.ping (h : w.Steady b server answer) :
    (w.ping b server).1 = .ok () ∧ (w.ping b server).2.Steady b server answer :=
  ⟨(h _ .refl).1, h.touch (.ping .refl) _⟩

theorem Steady.query (h : w.Steady b server answer) (sql : String) :
    (w.query b server sql).1 = answer sql ∧ (w.query b server sql).2.Steady b server answer :=
  ⟨(h _ .refl).2 sql, h.touch (.query .refl sql) _⟩

theorem Steady.ask (h : w.Steady b server answer) (sqls : List String) :
    (w.ask b server sqls).Steady b server answer := by
  induction sqls generalizing w with
  | nil => exact h
  | cons sql rest ih => exact ih (h.query sql).2

end Steady

end World

end PgMetrics
