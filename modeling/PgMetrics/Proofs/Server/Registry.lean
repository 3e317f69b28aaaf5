import PgMetrics.Proofs.Dict
import PgMetrics.Server.Registry

/-!
# What holds of every registered server

A property of servers that a new server has, and that does not depend on the role of the server, is
kept by the registry: every server that it has or gives out has the property, and stands under its
own fingerprint.

## Main definitions

* `Registry.All` — a property of all registered servers.
* `Registry.IsKept` — the properties that the registry keeps.
-/

namespace PgMetrics.Registry

variable {δ : Type} {P : String → Server → Prop}

/-- Every registered server stands under its own fingerprint and has the property. -/
def All (P : String → Server → Prop) (r : Registry) : Prop :=
  ∀ fingerprint s, r.servers.get? fingerprint = some s →
    s.fingerprint = fingerprint ∧ P fingerprint s

/-- A property that new servers have and that stays when the role of a server changes. -/
structure IsKept (P : String → Server → Prop) (constantLabels : Dict String String) : Prop where
  opened : ∀ serial e, P (Endpoint.fingerprint e) (.open serial e constantLabels)
  role : ∀ fingerprint s master, P fingerprint s → P fingerprint { s with master }

theorem all_empty (policy : RetryPolicy) (constantLabels : Dict String String) :
    All P (.empty policy constantLabels) := nofun

theorem All.put {r : Registry} (h : All P r) {s : Server} (property : P s.fingerprint s) :
    All P (r.put s) := by
  intro fingerprint t found
  unfold Registry.put at found
  rw [Dict.get?_insert] at found
  split at found
  case isTrue same =>
    obtain rfl := Std.LawfulEqCmp.eq_of_compare same
    cases found
    exact ⟨rfl, property⟩
  case isFalse => exact h fingerprint t found

theorem All.drop {r : Registry} (h : All P r) (fingerprint : String) :
    All P (r.drop fingerprint) := by
  intro other t found
  unfold Registry.drop at found
  rw [Dict.get?_erase] at found
  split at found
  · cases found
  · exact h other t found

theorem all_closeAll (b : Backend δ) (r : Registry) (w : World δ) :
    All P (r.closeAll b w).1 := nofun

/-! ## Getting a server -/

/-- What is left of a registry that was asked for a server, and what is known of the server. -/
structure Kept (P : String → Server → Prop) (e : Endpoint) (r : Registry)
    (result : Except ConnectionError Server × Registry × World δ) : Prop where
  all : All P result.2.1
  constantLabels : result.2.1.constantLabels = r.constantLabels
  server : ∀ s, result.1 = .ok s → s.fingerprint = e.fingerprint ∧ P e.fingerprint s

variable {r : Registry}

theorem kept_openServer (kept : IsKept P r.constantLabels) (h : All P r) (b : Backend δ)
    (e : Endpoint) (w : World δ) : Kept P e r (r.openServer b e w) := by
  unfold openServer
  cases found : r.servers.get? e.fingerprint with
  | some s =>
    refine ⟨h, rfl, ?_⟩
    rintro _ ⟨⟩
    exact h _ _ found
  | none =>
    obtain ⟨answer, w'⟩ := w.connect b e
    cases answer with
    | error source => exact ⟨h, rfl, nofun⟩
    | ok =>
      have property := kept.opened r.nextSerial e
      refine ⟨h.put property, rfl, ?_⟩
      rintro _ ⟨⟩
      exact ⟨rfl, property⟩

theorem kept_attempt (kept : IsKept P r.constantLabels) (h : All P r) (b : Backend δ)
    (e : Endpoint) (w : World δ) : Kept P e r (r.attempt b e w) := by
  unfold attempt
  have opening := kept_openServer kept h b e w
  generalize r.openServer b e w = opened at opening ⊢
  obtain ⟨answer, r', w'⟩ := opened
  obtain ⟨all, labels, server⟩ := opening
  cases answer with
  | error error => exact ⟨all, labels, nofun⟩
  | ok s =>
    obtain ⟨named, property⟩ := server s rfl
    dsimp only at all labels ⊢
    obtain ⟨pinged, w''⟩ := s.ping b w'
    cases pinged with
    | error error => exact ⟨all.drop e.fingerprint, labels, nofun⟩
    | ok =>
      have property' := kept.role e.fingerprint s e.master property
      refine ⟨all.put (s := { s with master := e.master }) ?_, labels, ?_⟩
      · rw [← named] at property'
        exact property'
      · rintro _ ⟨⟩
        exact ⟨named, property'⟩

theorem kept_attempts (kept : IsKept P r.constantLabels) (h : All P r) (b : Backend δ)
    (e : Endpoint) (done : Nat) (last : Option ConnectionError) (left : Nat) (w : World δ) :
    Kept P e r (r.attempts b e done last left w) := by
  induction left generalizing r done last w with
  | zero =>
    unfold attempts
    cases last <;> exact ⟨h, rfl, nofun⟩
  | succ left ih =>
    unfold attempts
    have attempted := kept_attempt kept h b e w
    generalize r.attempt b e w = result at attempted ⊢
    obtain ⟨answer, r', w'⟩ := result
    cases answer with
    | ok s => exact attempted
    | error error =>
      obtain ⟨all, labels, -⟩ := attempted
      dsimp only at all labels ⊢
      obtain ⟨all', labels', server⟩ := ih (labels ▸ kept) all (done + 1) (some error) _
      exact ⟨all', labels'.trans labels, server⟩

/-- The registry keeps the property, and the server that it gives out has it. -/
theorem kept_acquire (kept : IsKept P r.constantLabels) (h : All P r) (b : Backend δ)
    (e : Endpoint) (w : World δ) : Kept P e r (r.acquire b e w) :=
  kept_attempts kept h b e 0 none _ w

end PgMetrics.Registry
