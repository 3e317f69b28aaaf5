import PgMetrics.Proofs.Exporter.Parallel

/-!
# What caching changes

Two runs of an exporter are compared that differ in the windows of the namespaces, on databases that
do not change. Every pass has the same outcome in both. But a batch that is replayed is replayed
without the errors with which it was read, so a run without windows may report an error in a pass
in which one with windows does not.

## Main results

* `Exporter.outcomes_withWindows` — the outcomes do not depend on the windows.
* `Exporter.lastScrapeError_withoutWindows` — what is reported depends on them, and how.
-/

namespace PgMetrics

variable {δ : Type}

namespace Exporter

/-! ## All passes -/

/-- What happens before the passes leaves the databases of the endpoints steady. -/
def Undisturbed (b : Backend δ) (answers : String → Answers) (inputs : List (PassInput δ))
    (x : Exporter) : Prop :=
  ∀ i ∈ inputs, ∀ e ∈ x.endpoints, ∀ d, b.Steady e.fingerprint (answers e.fingerprint) d →
    b.Steady e.fingerprint (answers e.fingerprint) (i.drift e.fingerprint d)

section Run

variable {b : Backend δ} {answers : String → Answers} {windows : String → UInt64}
  {x y : Exporter} {v w : World δ}

theorem Parallel.drift (h : Parallel b answers windows x v y w) {change : String → δ → δ}
    (keeps : ∀ e ∈ x.endpoints, ∀ d, b.Steady e.fingerprint (answers e.fingerprint) d →
      b.Steady e.fingerprint (answers e.fingerprint) (change e.fingerprint d)) :
    Parallel b answers windows x (v.drift change) y (w.drift change) :=
  { h with
    left := ⟨h.left.sound, h.left.settled, fun e mem => keeps e mem _ (h.left.worlds e mem)⟩
    right := ⟨h.right.sound, h.right.settled, fun e mem =>
      keeps e (h.endpoints ▸ mem) _ (h.right.worlds e mem)⟩
    paired := fun e mem => by
      cases h.paired e mem with
      | registered left right => exact .registered left right
      | absent left right worlds => exact .absent left right (worlds.drift rfl) }

/-- Two runs that start alike. -/
theorem parallel_withWindows (new : x.registry.servers = .empty)
    (steady : ∀ e ∈ x.endpoints, w.Steady b e.fingerprint (answers e.fingerprint))
    (windows : String → UInt64) :
    Parallel b answers windows x w (x.withWindows windows) w := by
  have unregistered (fingerprint : String) : x.registry.servers.get? fingerprint = none := by
    rw [new]
    rfl
  have all {P : String → Server → Prop} : x.registry.All P := by
    intro fingerprint s found
    rw [unregistered] at found
    cases found
  exact ⟨⟨all, all, steady⟩, ⟨all, all, steady⟩, rfl, rfl, rfl, rfl, rfl, rfl, fun e _ =>
    .absent (unregistered _) (unregistered _) (.refl _ w)⟩

/-- In every pass two parallel runs start parallel. -/
theorem Parallel.passes (h : Parallel b answers windows x v y w) {inputs : List (PassInput δ)}
    (undisturbed : Undisturbed b answers inputs x) {n : Nat} {i : PassInput δ}
    (input : inputs[n]? = some i) :
    ∃ x' v' y' w', Parallel b answers windows x' (v'.drift i.drift) y' (w'.drift i.drift) ∧
      (Exporter.passes b inputs x v)[n]? = some (x'.passOn b i v') ∧
      (Exporter.passes b inputs y w)[n]? = some (y'.passOn b i w') := by
  induction inputs generalizing x v y w n with
  | nil => cases input
  | cons j rest ih =>
    obtain ⟨keeps, others⟩ := List.forall_mem_cons.mp undisturbed
    have started := h.drift keeps
    cases n with
    | zero =>
      cases input
      exact ⟨x, v, y, w, started, rfl, rfl⟩
    | succ n =>
      obtain ⟨-, after, -⟩ := started.collect j.clock
      obtain ⟨-, same, -⟩ := collectSpec_collect started.left.sound b j.clock (v.drift j.drift)
      exact ih after (fun i mem e mem' => others i mem e (same.endpoints ▸ mem')) input

theorem length_passes (b : Backend δ) (inputs : List (PassInput δ)) (x : Exporter) (w : World δ) :
    (Exporter.passes b inputs x w).length = inputs.length := by
  induction inputs generalizing x w with
  | nil => rfl
  | cons i rest ih => exact congrArg (· + 1) (ih _ _)

/-- On databases that do not change, every pass gives the same whatever the windows are. -/
theorem outcomes_withWindows (new : x.registry.servers = .empty)
    (steady : ∀ e ∈ x.endpoints, w.Steady b e.fingerprint (answers e.fingerprint))
    {inputs : List (PassInput δ)} (undisturbed : Undisturbed b answers inputs x)
    (windows : String → UInt64) :
    (x.passes b inputs w).map (·.outcome) =
      ((x.withWindows windows).passes b inputs w).map (·.outcome) := by
  have start := parallel_withWindows new steady windows
  apply List.ext_getElem?
  intro n
  rw [List.getElem?_map, List.getElem?_map]
  cases input : inputs[n]? with
  | none =>
    have beyond : inputs.length ≤ n := List.getElem?_eq_none_iff.mp input
    rw [List.getElem?_eq_none (by rwa [length_passes]),
      List.getElem?_eq_none (by rwa [length_passes])]
  | some i =>
    obtain ⟨x', v', y', w', parallel, left, right⟩ := start.passes undisturbed input
    obtain ⟨outcome, -⟩ := parallel.collect i.clock
    rw [left, right]
    exact congrArg some outcome

end Run

namespace Replaying

/-- A namespace with one column and a window of an hour. -/
def relation : Namespace := ⟨.ofList [("a", .plain .gauge "A")], false, 3600⟩

/-- An exporter of the namespace and nothing else. -/
def exporter : Exporter where
  endpoints := [.localhost]
  catalog := ⟨⟨.ofList [("t", relation)], .empty⟩, ""⟩
  options := ⟨"", false⟩
  defaultMetrics := false
  concurrency := 1
  registry := .empty .standard .empty
  status := ⟨"", .empty, .empty, false, 0.0, 0, .empty⟩

/-- The namespace has a row with a number and one with a text that is none. -/
def answer (sql : String) : Except DbError ResultSet :=
  if sql = versionQuery then .ok ⟨["version"], [[.text "PostgreSQL 14.0"]]⟩
  else .ok ⟨["a"], [[.int 1], [.text "many"]]⟩

def backend : Backend Unit := .constant answer

/-- Two passes at the start of 1970. -/
def inputs : List (PassInput Unit) :=
  [⟨⟨fun _ => default, 0.0⟩, fun _ => id⟩, ⟨⟨fun _ => default, 0.0⟩, fun _ => id⟩]

def start : World Unit := ⟨fun _ => (), []⟩

theorem steady (e : Endpoint) : start.Steady backend e.fingerprint answer :=
  Backend.steady_constant answer e.fingerprint

theorem undisturbed : Undisturbed backend (fun _ => answer) inputs exporter :=
  fun _ _ e _ _ _ => Backend.steady_constant answer e.fingerprint

/-- The run with the window and the one without. -/
def cached : List (PassResult Unit) := exporter.passes backend inputs start

def uncached : List (PassResult Unit) :=
  (exporter.withWindows fun _ => 0).passes backend inputs start

/-- The namespace is read once with the window and twice without. -/
theorem outcomes_of_replay :
    cached.map (·.outcome) = uncached.map (·.outcome) ∧
      cached.map (fun r => (r.world.queriesTo "localhost:5432").length) = [2, 3] ∧
      uncached.map (fun r => (r.world.queriesTo "localhost:5432").length) = [2, 4] := by
  refine ⟨outcomes_withWindows rfl (fun e _ => steady e) undisturbed fun _ => 0, ?_, ?_⟩
  · decide +kernel
  · decide +kernel

end Replaying

section Run

variable {b : Backend δ} {answers : String → Answers} {x : Exporter} {w : World δ}

theorem not_hides_of_mem (sound : x.Sound) {c : Catalog}
    (catalog : x.catalog = c.withWindows fun _ => 0) {i : PassInput δ} {t : EndpointTurn δ}
    (mem : t ∈ (x.passOn b i w).turns) : ¬ t.Hides b i.clock answers := by
  obtain ⟨sound', same, taken⟩ :=
    turn_of_mem (x := { x with status := x.status.beginPass }) sound mem
  rintro ⟨r, record, hides⟩
  rcases acquired : t.before.registry.acquire b t.endpoint t.world with ⟨answer, registry, w'⟩
  rw [taken] at record
  cases answer with
  | error error =>
    rw [record?_turn_of_refusal b i.clock _ _ _ acquired] at record
    cases record
  | ok s =>
    rw [record?_turn_of_acquire b i.clock _ _ _ acquired] at record
    obtain ⟨-, planOf, -⟩ := planOf_of_acquire sound' acquired
    have windows : t.before.catalog = c.withWindows fun _ => 0 := same.catalog.trans catalog
    rw [windows] at planOf record
    cases record
    exact Server.not_hides_of_pass b planOf _ hides

/-- What caching costs is that the errors of a batch are reported only by the pass that read it. -/
theorem lastScrapeError_withoutWindows (new : x.registry.servers = .empty)
    (steady : ∀ e ∈ x.endpoints, w.Steady b e.fingerprint (answers e.fingerprint))
    {inputs : List (PassInput δ)} (undisturbed : Undisturbed b answers inputs x)
    (whole : ∀ r ∈ x.passes b inputs w, ∀ a, r.outcome ≠ .error (.abort a)) {n : Nat}
    {i : PassInput δ} (input : inputs[n]? = some i) :
    ∃ r r', (x.passes b inputs w)[n]? = some r ∧
      ((x.withWindows fun _ => 0).passes b inputs w)[n]? = some r' ∧
      (r'.exporter.status.lastScrapeError = true ↔
        r.exporter.status.lastScrapeError = true ∨
          ∃ t ∈ r.turns, t.Hides b i.clock answers) := by
  have start := parallel_withWindows new steady fun _ => 0
  obtain ⟨x', v', y', w', parallel, left, right⟩ := start.passes undisturbed input
  refine ⟨_, _, left, right, ?_⟩
  obtain ⟨outcome, -, turns⟩ := parallel.collect i.clock
  have one : ∀ a, (x'.passOn b i v').outcome ≠ .error (.abort a) :=
    whole _ (List.mem_of_getElem? left)
  have one' : ∀ a, (y'.passOn b i w').outcome ≠ .error (.abort a) :=
    fun a aborted => one a (outcome.trans aborted)
  rw [lastScrapeError_passOn parallel.left.sound one,
    lastScrapeError_passOn parallel.right.sound one']
  constructor
  · rintro ⟨u, mem, troubled⟩
    obtain ⟨t, mem', same⟩ := exists_of_forall₂_right turns mem
    rcases same.troubled.mpr (.inl troubled) with troubled' | hides
    · exact .inl ⟨t, mem', troubled'⟩
    · exact .inr ⟨t, mem', hides⟩
  · have shown {t : EndpointTurn δ} (mem : t ∈ (x'.passOn b i v').turns)
        (wrong : t.Troubled b i.clock ∨ t.Hides b i.clock answers) :
        ∃ u ∈ (y'.passOn b i w').turns, u.Troubled b i.clock := by
      obtain ⟨u, mem', same⟩ := exists_of_forall₂_left turns mem
      refine ⟨u, mem', (same.troubled.mp wrong).resolve_right ?_⟩
      exact not_hides_of_mem parallel.right.sound parallel.catalog mem'
    rintro (⟨t, mem, troubled⟩ | ⟨t, mem, hides⟩)
    · exact shown mem (.inl troubled)
    · exact shown mem (.inr hides)

end Run

namespace Replaying

/-- Without the window the second pass reports what replaying hides with it. -/
theorem lastScrapeError_of_replay :
    ∃ r r', cached[1]? = some r ∧ uncached[1]? = some r' ∧
      r.exporter.status.lastScrapeError = false ∧ r'.exporter.status.lastScrapeError = true ∧
      ∃ t ∈ r.turns, t.Hides backend ⟨fun _ => default, 0.0⟩ fun _ => answer := by
  have ends : cached.all (·.outcome.isOk) = true := by
    decide +kernel
  have whole : ∀ r ∈ cached, ∀ a, r.outcome ≠ .error (.abort a) := by
    intro r mem a
    exact ne_error_of_isOk (List.all_eq_true.mp ends r mem) (.abort a)
  obtain ⟨r, r', left, right, iff⟩ := lastScrapeError_withoutWindows (n := 1) rfl
    (fun e _ => steady e) undisturbed whole rfl
  have second : cached[1]? = some r := left
  have second' : uncached[1]? = some r' := right
  have silent : cached[1]?.map (·.exporter.status.lastScrapeError) = some false := by
    decide +kernel
  have reported : uncached[1]?.map (·.exporter.status.lastScrapeError) = some true := by
    decide +kernel
  rw [second, Option.map_some, Option.some_inj] at silent
  rw [second', Option.map_some, Option.some_inj] at reported
  refine ⟨r, r', second, second', silent, reported, ?_⟩
  exact (iff.mp reported).resolve_left (by rw [silent]; exact Bool.false_ne_true)

/-- With the window the text that is no number is reported by the first pass only. -/
theorem not_lastScrapeError_withWindows :
    (∀ e ∈ exporter.endpoints, start.Steady backend e.fingerprint answer) ∧
      Undisturbed backend (fun _ => answer) inputs exporter ∧
      cached.map (·.outcome.isOk) = [true, true] ∧
      cached.map (·.exporter.status.lastScrapeError) = [true, false] ∧
      uncached.map (·.exporter.status.lastScrapeError) = [true, true] := by
  refine ⟨fun e _ => steady e, undisturbed, ?_, ?_, ?_⟩
  · decide +kernel
  · decide +kernel
  · decide +kernel

end Replaying

end Exporter

end PgMetrics
