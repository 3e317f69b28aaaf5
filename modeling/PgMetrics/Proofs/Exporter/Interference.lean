import PgMetrics.Proofs.Config.Validate
import PgMetrics.Proofs.Exporter.Turns

/-!
# Endpoints do not interfere

Two runs of an exporter are compared in which one database behaves the same, and the others may
behave as they like. Pass by pass the endpoint of that database has the same gauge, the same server,
the same events and the same metrics, and in both runs every endpoint gets its turn.

## Main definitions

* `PassInput`, `Exporter.passes` — runs of passes, between which the databases may change.
* `PassInput.SameFor`, `PassResult.SameFor` — what is the same for one server in two runs.
-/

namespace PgMetrics

/-! ## Runs -/

variable {δ : Type}

/-- What a pass finds: the clock, and how the databases changed since the last pass. -/
structure PassInput (δ : Type) where
  clock : PassClock
  drift : String → δ → δ

/-- What a pass did: the turns of the endpoints, its outcome, and what it left. -/
structure PassResult (δ : Type) where
  turns : List (EndpointTurn δ)
  outcome : Except CollectStop (List Metric)
  exporter : Exporter
  world : World δ

/-- The pass finds the same for a server. -/
structure PassInput.SameFor (fingerprint : String) (i j : PassInput δ) : Prop where
  now : i.clock.now fingerprint = j.clock.now fingerprint
  drift : i.drift fingerprint = j.drift fingerprint

/-- The pass gave the same for a server and left the same. -/
structure PassResult.SameFor (fingerprint : String) (p q : PassResult δ) : Prop where
  up : p.exporter.status.up.get? fingerprint = q.exporter.status.up.get? fingerprint
  server : (p.exporter.registry.servers.get? fingerprint).map Server.unnumbered =
    (q.exporter.registry.servers.get? fingerprint).map Server.unnumbered
  events : p.world.eventsOf fingerprint = q.world.eventsOf fingerprint
  queries : p.world.queriesTo fingerprint = q.world.queriesTo fingerprint
  metrics : ∀ m n, p.outcome = .ok m → q.outcome = .ok n →
    Exporter.slice fingerprint m = Exporter.slice fingerprint n

namespace World

/-- The world after the databases changed on their own. -/
def drift (w : World δ) (change : String → δ → δ) : World δ :=
  { w with databases := fun server => change server (w.databases server) }

theorem SameFor.drift {server : String} {v w : World δ} (h : SameFor server v w)
    {change change' : String → δ → δ} (same : change server = change' server) :
    SameFor server (v.drift change) (w.drift change') := by
  refine ⟨?_, h.events⟩
  unfold World.drift
  dsimp only
  rw [same, h.database]

end World

namespace Exporter

/-- One pass. -/
def passOn (b : Backend δ) (i : PassInput δ) (x : Exporter) (w : World δ) : PassResult δ :=
  let result := x.collect b i.clock (w.drift i.drift)
  ⟨x.turnsOf b i.clock (w.drift i.drift), result.1, result.2.1, result.2.2⟩

/-- A run of passes. -/
def passes (b : Backend δ) : List (PassInput δ) → Exporter → World δ → List (PassResult δ)
  | [], _, _ => []
  | i :: rest, x, w =>
    let r := x.passOn b i w
    r :: passes b rest r.exporter r.world

/-! ## Two passes -/

section Pass

variable {b : Backend δ} {clock clock' : PassClock} {order order' : List Endpoint}
  {x y : Exporter} {v w : World δ}

/-- In a pass that does not abort an endpoint takes its turn with the share that it had before. -/
theorem exists_turn_of_collectIn (sound : x.Sound) {e : Endpoint} (mem : e ∈ order)
    (distinct : (order.map Endpoint.fingerprint).Nodup)
    (whole : ∀ a, (x.collectIn b clock order w).1 ≠ .error (.abort a)) :
    ∃ z u, z.Sound ∧ z.turn b clock e u ∈ x.turnsIn b clock order w ∧
      Agree e.fingerprint x w z u ∧
      Agree e.fingerprint (z.turn b clock e u).after (z.turn b clock e u).worldAfter
        (x.collectIn b clock order w).2.1 (x.collectIn b clock order w).2.2 := by
  unfold turnsIn
  unfold collectIn at whole ⊢
  dsimp only at whole ⊢
  rcases scraped : scrapeEndpoints b clock order ⟨[], false, none⟩
    { x with status := x.status.beginPass } w with ⟨answer, x', w'⟩
  rw [scraped] at whole
  cases answer with
  | error a => exact absurd rfl (whole a)
  | ok c =>
    obtain ⟨z, u, sound', taken, start, finish⟩ :=
      exists_turn (x := { x with status := x.status.beginPass }) sound mem distinct scraped
    refine ⟨z, u, sound', taken, ?_, ?_⟩
    · exact ⟨start.catalog, start.options, start.defaultMetrics, start.registry, start.up⟩
    · obtain ⟨metrics, hadErrors, fault⟩ := c
      cases fault with
      | none =>
        exact ⟨finish.catalog, finish.options, finish.defaultMetrics, finish.registry, finish.up⟩
      | some error =>
        exact ⟨finish.catalog, finish.options, finish.defaultMetrics, finish.registry, finish.up⟩

/-- The metrics of a server in a pass are those of its turn. -/
theorem slice_of_collectIn (sound : x.Sound)
    (distinct : (order.map Endpoint.fingerprint).Nodup) {metrics : List Metric}
    (collected : (x.collectIn b clock order w).1 = .ok metrics) {t : EndpointTurn δ}
    (mem : t ∈ x.turnsIn b clock order w) :
    slice t.endpoint.fingerprint metrics = t.metrics := by
  obtain ⟨endpoints, given⟩ := metrics_of_collectIn collected
  rw [given]
  refine slice_of_turns ?_ ?_ mem
  · intro t' mem' m
    exact server_of_mem_metrics (x := { x with status := x.status.beginPass }) sound mem'
  · rw [← endpoints, List.map_map] at distinct
    exact distinct

/-- What a pass gives for an endpoint and leaves of its share depends on the share before it, and
not on the order of the turns. -/
theorem Agree.collectIn {e : Endpoint} (h : Agree e.fingerprint x v y w) (sound : x.Sound)
    (sound' : y.Sound) (mem : e ∈ order) (mem' : e ∈ order')
    (distinct : (order.map Endpoint.fingerprint).Nodup)
    (distinct' : (order'.map Endpoint.fingerprint).Nodup)
    (time : clock.now e.fingerprint = clock'.now e.fingerprint)
    (whole : ∀ a, (x.collectIn b clock order v).1 ≠ .error (.abort a))
    (whole' : ∀ a, (y.collectIn b clock' order' w).1 ≠ .error (.abort a)) :
    Agree e.fingerprint (x.collectIn b clock order v).2.1 (x.collectIn b clock order v).2.2
        (y.collectIn b clock' order' w).2.1 (y.collectIn b clock' order' w).2.2 ∧
      ∀ m n, (x.collectIn b clock order v).1 = .ok m →
        (y.collectIn b clock' order' w).1 = .ok n →
        slice e.fingerprint m = slice e.fingerprint n := by
  obtain ⟨x₁, v₁, sound₁, taken, start, finish⟩ :=
    exists_turn_of_collectIn sound mem distinct whole
  obtain ⟨y₁, w₁, -, taken', start', finish'⟩ :=
    exists_turn_of_collectIn sound' mem' distinct' whole'
  -- neither the turns before the endpoint's own nor those after it change its share
  have agree : Agree e.fingerprint x₁ v₁ y₁ w₁ := (start.symm.trans h).trans start'
  obtain ⟨outcome, after⟩ := agree.scrapeEndpoint b sound₁ time
  refine ⟨(finish.symm.trans after).trans finish', ?_⟩
  intro m n collected collected'
  have own := slice_of_collectIn sound distinct collected taken
  have own' := slice_of_collectIn sound' distinct' collected' taken'
  have metrics : (x₁.turn b clock e v₁).metrics = (y₁.turn b clock' e w₁).metrics :=
    EndpointTurn.metrics_congr outcome
  exact own.trans (metrics.trans own'.symm)

end Pass

/-! ## Two runs -/

/-- What is the same for a server stays the same, pass after pass. -/
theorem sameFor_passes {b : Backend δ} {e : Endpoint} {inputs inputs' : List (PassInput δ)}
    (same : List.Forall₂ (PassInput.SameFor e.fingerprint) inputs inputs') {x y : Exporter}
    {v w : World δ} (h : Agree e.fingerprint x v y w) (sound : x.Sound) (sound' : y.Sound)
    (mem : e ∈ x.endpoints) (endpoints : y.endpoints = x.endpoints)
    (distinct : (x.endpoints.map Endpoint.fingerprint).Nodup)
    (whole : ∀ r ∈ passes b inputs x v, ∀ a, r.outcome ≠ .error (.abort a))
    (whole' : ∀ r ∈ passes b inputs' y w, ∀ a, r.outcome ≠ .error (.abort a)) :
    List.Forall₂ (PassResult.SameFor e.fingerprint) (passes b inputs x v)
      (passes b inputs' y w) := by
  induction same generalizing x y v w with
  | nil => exact .nil
  | @cons i j rest rest' first _ ih =>
    obtain ⟨one, others⟩ := List.forall_mem_cons.mp whole
    obtain ⟨one', others'⟩ := List.forall_mem_cons.mp whole'
    -- the databases of the others may drift apart here
    have drifted : Agree e.fingerprint x (v.drift i.drift) y (w.drift j.drift) :=
      { h with registry := h.registry.of_worlds (h.registry.worlds.drift first.drift) }
    obtain ⟨agree, metrics⟩ := drifted.collectIn sound sound' mem (endpoints ▸ mem) distinct
      (endpoints ▸ distinct) first.now one one'
    have spec := collectSpec_collect sound b i.clock (v.drift i.drift)
    have spec' := collectSpec_collect sound' b j.clock (w.drift j.drift)
    have kept := spec.same.endpoints
    have kept' := spec'.same.endpoints.trans endpoints
    refine .cons ?_ (ih agree spec.sound spec'.sound ?_ ?_ ?_ others others')
    · exact ⟨agree.up, agree.registry.entry, agree.registry.worlds.events,
        agree.registry.worlds.queries, metrics⟩
    · exact kept ▸ mem
    · exact kept'.trans kept.symm
    · exact kept ▸ distinct

/-- In every pass that does not abort, every endpoint gets its turn. -/
theorem turns_of_passes {b : Backend δ} {inputs : List (PassInput δ)} {x : Exporter}
    {w : World δ} (sound : x.Sound)
    (whole : ∀ r ∈ passes b inputs x w, ∀ a, r.outcome ≠ .error (.abort a)) :
    ∀ r ∈ passes b inputs x w,
      r.turns.map (·.endpoint) = x.endpoints ∧ r.outcome = outcomeOf r.turns := by
  induction inputs generalizing x w with
  | nil =>
    intro r mem
    cases mem
  | cons i rest ih =>
    obtain ⟨one, others⟩ := List.forall_mem_cons.mp whole
    have spec := collectSpec_collect sound b i.clock (w.drift i.drift)
    obtain ⟨endpoints, -, outcome⟩ := collectIn_of_turns one
    refine List.forall_mem_cons.mpr ⟨⟨endpoints, outcome⟩, ?_⟩
    intro r mem
    obtain ⟨endpoints', outcome'⟩ := ih spec.sound others r mem
    exact ⟨endpoints'.trans spec.same.endpoints, outcome'⟩

/-- What the other databases do is not noticed by an endpoint: if its own database behaves the same
in two runs, then it has the same gauge, the same server, the same events and the same metrics in
every pass, and in every pass all endpoints get their turns. -/
theorem endpoints_do_not_interfere {b : Backend δ} {c : Config} {files : String → FileState}
    {x : Exporter} (valid : c.validate = .ok ()) (created : Exporter.new c files = .ok x)
    {e : Endpoint} (mem : e ∈ c.endpoints) {inputs inputs' : List (PassInput δ)}
    (same : List.Forall₂ (PassInput.SameFor e.fingerprint) inputs inputs')
    {databases databases' : String → δ}
    (start : databases e.fingerprint = databases' e.fingerprint)
    (whole : ∀ r ∈ passes b inputs x ⟨databases, []⟩, ∀ a, r.outcome ≠ .error (.abort a))
    (whole' : ∀ r ∈ passes b inputs' x ⟨databases', []⟩, ∀ a, r.outcome ≠ .error (.abort a)) :
    List.Forall₂ (PassResult.SameFor e.fingerprint) (passes b inputs x ⟨databases, []⟩)
        (passes b inputs' x ⟨databases', []⟩) ∧
      ∀ r ∈ passes b inputs x ⟨databases, []⟩,
        r.turns.map (·.endpoint) = c.endpoints ∧ r.outcome = outcomeOf r.turns := by
  have sound := sound_of_new created
  have endpoints := endpoints_of_new created
  have distinct := Config.nodup_of_validate valid
  rw [← endpoints] at mem distinct
  have agree : Agree e.fingerprint x ⟨databases, []⟩ x ⟨databases', []⟩ :=
    { Agree.refl e.fingerprint x ⟨databases, []⟩ with
      registry := ⟨rfl, rfl, rfl, start, rfl⟩ }
  refine ⟨sameFor_passes same agree sound sound mem rfl distinct whole whole', ?_⟩
  intro r taken
  obtain ⟨all, outcome⟩ := turns_of_passes sound whole r taken
  exact ⟨all.trans endpoints, outcome⟩

namespace DeadNeighbour

/-- An endpoint and its neighbour. -/
def own : Endpoint := .ofHost "db"

def neighbour : Endpoint := .ofHost "near"

/-- Nothing but the parameters of the two is exported. -/
def config : Config :=
  { Config.standard with
    exporter := { ScrapeConfig.standard with disableDefaultMetrics := true }
    endpoints := [neighbour, own] }

/-- Databases that can be reached or not and have one parameter. -/
def backend : Backend Bool where
  connect _ reachable := (if reachable then .ok () else .error (.connect "refused"), reachable)
  ping reachable := (.ok (), reachable)
  query sql reachable :=
    if sql = versionQuery then (.ok ⟨["version"], [[.text "PostgreSQL 14.0"]]⟩, reachable)
    else
      (.ok ⟨[], [[.text "jit", .text "on", .text "", .text "", .text "bool"]]⟩, reachable)
  close reachable := reachable

/-- The neighbour can be reached or not. -/
def databases (near : Bool) (server : String) : Bool := near || server == own.fingerprint

/-- A pass at the start of 1970, before which nothing changed. -/
def input : PassInput Bool := ⟨⟨fun _ => default, 0.0⟩, fun _ => id⟩

theorem exporter_isSome :
    (Exporter.new config fun _ => .missing).toOption.isSome = true := by
  decide +kernel

/-- The exporter of the configuration. -/
def exporter : Exporter := (Exporter.new config fun _ => .missing).toOption.get exporter_isSome

def run (near : Bool) : List (PassResult Bool) :=
  exporter.passes backend [input] ⟨databases near, []⟩

theorem not_aborted_of_run (near : Bool) :
    ∀ r ∈ run near, ∀ a, r.outcome ≠ .error (.abort a) := by
  have all : (run near).all (fun r => r.outcome.isOk) = true := by
    cases near <;> decide +kernel
  intro r mem a
  exact ne_error_of_isOk (List.all_eq_true.mp all r mem) (.abort a)

/-- The pass fails for the neighbour only. -/
theorem sameFor_of_run :
    List.Forall₂ (PassResult.SameFor own.fingerprint) (run true) (run false) ∧
      (run true).map (fun r => r.exporter.status.up.get? neighbour.fingerprint) = [some true] ∧
      (run false).map (fun r => r.exporter.status.up.get? neighbour.fingerprint) =
        [some false] := by
  have valid : config.validate = .ok () := by
    decide +kernel
  have mem : own ∈ config.endpoints := by
    decide
  have same : List.Forall₂ (PassInput.SameFor own.fingerprint) [input] [input] :=
    .cons ⟨rfl, rfl⟩ .nil
  have start : databases true own.fingerprint = databases false own.fingerprint := by
    decide +kernel
  obtain ⟨alike, -⟩ := endpoints_do_not_interfere valid (eq_ok_get_toOption exporter_isSome) mem
    same start (not_aborted_of_run true) (not_aborted_of_run false)
  refine ⟨alike, ?_, ?_⟩
  · decide +kernel
  · decide +kernel

end DeadNeighbour

end Exporter

end PgMetrics
