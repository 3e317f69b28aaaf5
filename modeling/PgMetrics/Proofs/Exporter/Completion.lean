import PgMetrics.Proofs.Exporter.Status

/-!
# The order in which turns end

Several turns of a pass may be under way together, and the more there may be, the more orders there
are in which they can end. Since the turn of an endpoint leaves the shares of the others alone, each
comes to what it would have come to on its own. So two passes in different orders give the same
metrics, one server after the other, and leave the same of every server.

## Main definitions

* `Exporter.passIn`, `Exporter.passesIn` — passes in which the turns end in given orders.
* `PassResult.Reordered` — passes that differ only in the order of their turns.

## Main results

* `Exporter.map_turnsIn` — the turns of a pass, told by the turns of its endpoints on their own.
* `Exporter.reordered_passesIn` — runs in any orders against the run with one turn at a time.
* `Exporter.collectIn_eq_collect` — if one turn at a time is admitted, there is one order.
-/

namespace PgMetrics

/-! ## The orders -/

section Order

variable {α : Type} [DecidableEq α] {limit : Nat} {l order : List α}

/-- One at a time they end as they are taken up. -/
theorem completes_one_iff : Completes 1 l order ↔ order = l := by
  refine ⟨fun h => ?_, fun h => h ▸ completes_self Nat.one_pos l⟩
  induction order generalizing l with
  | nil => exact Eq.symm h
  | cons a rest ih =>
    obtain ⟨underWay, later⟩ := h
    cases l with
    | nil => cases underWay
    | cons first others =>
      obtain rfl : a = first := List.mem_singleton.mp underWay
      rw [List.erase_cons_head] at later
      rw [ih later]

/-- If there is room for all, they end in any order. -/
theorem completes_iff_perm (room : l.length ≤ limit) : Completes limit l order ↔ order.Perm l := by
  refine ⟨Completes.perm, fun h => ?_⟩
  induction order generalizing l with
  | nil => exact h.nil_eq.symm
  | cons a rest ih =>
    have mem : a ∈ l := h.mem_iff.mp List.mem_cons_self
    have fewer : (l.erase a).length ≤ limit := (List.length_erase_le ..).trans room
    refine ⟨?_, ih fewer (List.cons_perm_iff_perm_erase.mp h).2⟩
    rwa [List.take_of_length_le room]

example : Completes 2 ["a", "b", "c"] ["b", "c", "a"] ∧
    ¬ Completes 2 ["a", "b", "c"] ["c", "a", "b"] := by
  decide

end Order

/-! ## What two orders have in common -/

/-- The same metrics in some order, or an unknown unit in both. -/
def SameMetrics : Except CollectStop (List Metric) → Except CollectStop (List Metric) → Prop
  | .ok m, .ok n => m.Perm n
  | .error (.fault _), .error (.fault _) => True
  | _, _ => False

/-- Passes that differ in nothing but the order of the turns: in both the endpoints have the same
turns, and what is collected and left is the same. -/
structure PassResult.Reordered {δ : Type} (endpoints : List Endpoint) (p q : PassResult δ) :
    Prop where
  turns : (p.turns.map fun t => (t.endpoint, t.outcome)).Perm
    (q.turns.map fun t => (t.endpoint, t.outcome))
  outcome : SameMetrics p.outcome q.outcome
  servers : ∀ e ∈ endpoints, p.SameFor e.fingerprint q
  total : p.exporter.status.scrapesTotal = q.exporter.status.scrapesTotal
  error : p.exporter.status.lastScrapeError = q.exporter.status.lastScrapeError

namespace Exporter

variable {δ : Type} {b : Backend δ} {clock : PassClock} {order : List Endpoint} {x : Exporter}
  {w : World δ}

/-! ## Turns taken apart -/

theorem agree_beginPass (fingerprint : String) (x : Exporter) (w : World δ) :
    Agree fingerprint x w { x with status := x.status.beginPass } w :=
  ⟨rfl, rfl, rfl, ⟨rfl, rfl, rfl, .refl fingerprint w⟩, rfl⟩

/-- What comes of a turn in a pass comes of it on its own. -/
theorem outcome_of_mem (sound : x.Sound) (distinct : (order.map Endpoint.fingerprint).Nodup)
    {t : EndpointTurn δ} (mem : t ∈ x.turnsIn b clock order w) :
    t.outcome = (x.turn b clock t.endpoint w).outcome := by
  have begun : Exporter.Sound { x with status := x.status.beginPass } := sound
  obtain ⟨-, -, taken⟩ := turn_of_mem begun mem
  have agree := (agree_beginPass t.endpoint.fingerprint x w).trans (agree_of_mem begun distinct mem)
  obtain ⟨outcome, -⟩ := agree.scrapeEndpoint b sound (rfl : clock.now _ = clock.now _)
  rw [taken]
  exact outcome.symm

/-- The turns of a pass that does not abort, told by the turns of its endpoints on their own. -/
theorem map_turnsIn {β : Type} (sound : x.Sound)
    (distinct : (order.map Endpoint.fingerprint).Nodup)
    (whole : ∀ a, (x.collectIn b clock order w).1 ≠ .error (.abort a))
    {f : EndpointTurn δ → β}
    (congr : ∀ {t u}, t.endpoint = u.endpoint → t.outcome = u.outcome → f t = f u) :
    (x.turnsIn b clock order w).map f = order.map fun e => f (x.turn b clock e w) := by
  obtain ⟨endpoints, -, -⟩ := collectIn_of_turns whole
  calc (x.turnsIn b clock order w).map f
    _ = (x.turnsIn b clock order w).map fun t => f (x.turn b clock t.endpoint w) :=
        List.map_congr_left fun t mem => congr rfl (outcome_of_mem sound distinct mem)
    _ = ((x.turnsIn b clock order w).map (·.endpoint)).map fun e => f (x.turn b clock e w) :=
        by rw [List.map_map]; rfl
    _ = order.map fun e => f (x.turn b clock e w) := by rw [endpoints]

/-- What aborts a list of turns is an abort of one of them. -/
theorem exists_abort_of_scrapeEndpoints {l : List Endpoint} {c : Collected} {a : Abort}
    (h : (scrapeEndpoints b clock l c x w).1 = .error a) :
    ∃ t ∈ endpointTurns b clock l x w, t.outcome = .error (.abort a) := by
  induction l generalizing c x w with
  | nil => cases h
  | cons e rest ih =>
    unfold scrapeEndpoints at h
    unfold endpointTurns turn
    generalize x.scrapeEndpoint b clock e w = result at h ⊢
    obtain ⟨outcome, x', w'⟩ := result
    dsimp only at h ⊢
    cases outcome with
    | error stop =>
      cases stop with
      | abort a' =>
        cases h
        exact ⟨_, List.mem_singleton_self _, rfl⟩
      | settings error =>
        obtain ⟨t, mem, aborted⟩ := ih h
        exact ⟨t, List.mem_cons_of_mem _ mem, aborted⟩
    | ok scrape =>
      obtain ⟨t, mem, aborted⟩ := ih h
      exact ⟨t, List.mem_cons_of_mem _ mem, aborted⟩

theorem exists_abort_of_collectIn {a : Abort}
    (h : (x.collectIn b clock order w).1 = .error (.abort a)) :
    ∃ t ∈ x.turnsIn b clock order w, t.outcome = .error (.abort a) := by
  unfold collectIn at h
  dsimp only at h
  rcases scraped : scrapeEndpoints b clock order ⟨[], false, none⟩
    { x with status := x.status.beginPass } w with ⟨answer, x', w'⟩
  rw [scraped] at h
  cases answer with
  | error a' =>
    cases h
    exact exists_abort_of_scrapeEndpoints (congrArg Prod.fst scraped)
  | ok c =>
    dsimp only at h
    split at h <;> cases h

/-- A pass aborts exactly if the turn of one of its endpoints would abort on its own. -/
theorem whole_iff (sound : x.Sound) (distinct : (order.map Endpoint.fingerprint).Nodup) :
    (∀ a, (x.collectIn b clock order w).1 ≠ .error (.abort a)) ↔
      ∀ e ∈ order, ∀ a, (x.turn b clock e w).outcome ≠ .error (.abort a) := by
  constructor
  · intro whole e mem a aborted
    obtain ⟨endpoints, taken, -⟩ := collectIn_of_turns whole
    obtain ⟨t, mem', rfl⟩ : ∃ t ∈ x.turnsIn b clock order w, t.endpoint = e := by
      rw [← endpoints] at mem
      exact List.mem_map.mp mem
    exact taken t mem' a ((outcome_of_mem sound distinct mem').trans aborted)
  · intro apart a aborted
    obtain ⟨t, mem, outcome⟩ := exists_abort_of_collectIn aborted
    exact apart t.endpoint (endpoint_of_mem mem) a
      ((outcome_of_mem sound distinct mem).symm.trans outcome)

/-! ## Runs -/

/-- One pass in which the turns end in the given order. -/
def passIn (b : Backend δ) (i : PassInput δ) (order : List Endpoint) (x : Exporter) (w : World δ) :
    PassResult δ :=
  let result := x.collectIn b i.clock order (w.drift i.drift)
  ⟨x.turnsIn b i.clock order (w.drift i.drift), result.1, result.2.1, result.2.2⟩

/-- A run of passes, each with the order in which its turns end. -/
def passesIn (b : Backend δ) :
    List (PassInput δ × List Endpoint) → Exporter → World δ → List (PassResult δ)
  | [], _, _ => []
  | (i, order) :: rest, x, w =>
    let r := x.passIn b i order w
    r :: passesIn b rest r.exporter r.world

/-! ## Two orders -/

theorem findSome?_fault?_eq_none_iff {turns : List (EndpointTurn δ)} :
    turns.findSome? EndpointTurn.fault? = none ↔
      ∀ fault ∈ turns.map EndpointTurn.fault?, fault = none := by
  rw [List.findSome?_eq_none_iff, List.forall_mem_map]

theorem sameMetrics_outcomeOf {turns turns' : List (EndpointTurn δ)}
    (metrics : (turns.map EndpointTurn.metrics).Perm (turns'.map EndpointTurn.metrics))
    (faults : (turns.map EndpointTurn.fault?).Perm (turns'.map EndpointTurn.fault?)) :
    SameMetrics (outcomeOf turns) (outcomeOf turns') := by
  have none_iff : turns.findSome? EndpointTurn.fault? = none ↔
      turns'.findSome? EndpointTurn.fault? = none := by
    rw [findSome?_fault?_eq_none_iff, findSome?_fault?_eq_none_iff]
    exact forall_congr' fun fault => imp_congr_left faults.mem_iff
  unfold outcomeOf
  cases first : turns.findSome? EndpointTurn.fault? with
  | none =>
    rw [none_iff.mp first]
    exact metrics.flatten
  | some e =>
    cases second : turns'.findSome? EndpointTurn.fault? with
    | none => rw [none_iff.mpr second] at first; cases first
    | some e' => trivial

section Two

variable {order' : List Endpoint} {y : Exporter} {v : World δ}

/-- If two exporters agree on all endpoints, the turns of their passes differ in the order only. -/
theorem perm_map_turnsIn {β : Type} (agree : ∀ e ∈ order', Agree e.fingerprint x v y w)
    (sound : x.Sound) (sound' : y.Sound) (perm : order.Perm order')
    (distinct : (order'.map Endpoint.fingerprint).Nodup)
    (whole : ∀ a, (x.collectIn b clock order v).1 ≠ .error (.abort a))
    (whole' : ∀ a, (y.collectIn b clock order' w).1 ≠ .error (.abort a))
    {f : EndpointTurn δ → β}
    (congr : ∀ {t u}, t.endpoint = u.endpoint → t.outcome = u.outcome → f t = f u) :
    ((x.turnsIn b clock order v).map f).Perm ((y.turnsIn b clock order' w).map f) := by
  have distinct₁ := (perm.map Endpoint.fingerprint).nodup_iff.mpr distinct
  have same : ∀ e ∈ order', f (x.turn b clock e v) = f (y.turn b clock e w) := fun e mem =>
    congr rfl ((agree e mem).scrapeEndpoint b sound rfl).1
  rw [map_turnsIn sound distinct₁ whole congr, map_turnsIn sound' distinct whole' congr,
    ← List.map_congr_left same]
  exact perm.map _

/-- What aborts in one order aborts in the other. -/
theorem whole_of_perm (agree : ∀ e ∈ order', Agree e.fingerprint x v y w) (sound : x.Sound)
    (sound' : y.Sound) (perm : order.Perm order')
    (distinct : (order'.map Endpoint.fingerprint).Nodup)
    (whole' : ∀ a, (y.collectIn b clock order' w).1 ≠ .error (.abort a)) :
    ∀ a, (x.collectIn b clock order v).1 ≠ .error (.abort a) := by
  have distinct₁ := (perm.map Endpoint.fingerprint).nodup_iff.mpr distinct
  refine (whole_iff sound distinct₁).mpr fun e mem a aborted => ?_
  have mem' : e ∈ order' := perm.mem_iff.mp mem
  obtain ⟨outcome, -⟩ := (agree e mem').scrapeEndpoint b sound (rfl : clock.now _ = clock.now _)
  exact (whole_iff sound' distinct).mp whole' e mem' a (outcome.symm.trans aborted)

/-- A pass of one exporter in some order and of another in another order. -/
theorem reordered_passIn {i : PassInput δ} (agree : ∀ e ∈ order', Agree e.fingerprint x v y w)
    (total : x.status.scrapesTotal = y.status.scrapesTotal) (sound : x.Sound) (sound' : y.Sound)
    (perm : order.Perm order') (distinct : (order'.map Endpoint.fingerprint).Nodup)
    (whole' : ∀ a, (y.passIn b i order' w).outcome ≠ .error (.abort a)) :
    PassResult.Reordered order' (x.passIn b i order v) (y.passIn b i order' w) ∧
      ∀ e ∈ order', Agree e.fingerprint (x.passIn b i order v).exporter
        (x.passIn b i order v).world (y.passIn b i order' w).exporter
        (y.passIn b i order' w).world := by
  have drifted : ∀ e ∈ order', Agree e.fingerprint x (v.drift i.drift) y (w.drift i.drift) :=
    fun e mem => { agree e mem with
      registry := (agree e mem).registry.of_worlds ((agree e mem).registry.worlds.drift rfl) }
  have whole := whole_of_perm drifted sound sound' perm distinct whole'
  have turns {β : Type} {f : EndpointTurn δ → β}
      (congr : ∀ {t u}, t.endpoint = u.endpoint → t.outcome = u.outcome → f t = f u) :=
    perm_map_turnsIn drifted sound sound' perm distinct whole whole' congr
  have distinct₁ := (perm.map Endpoint.fingerprint).nodup_iff.mpr distinct
  have shares (e : Endpoint) (mem : e ∈ order') :=
    (drifted e mem).collectIn sound sound' (perm.mem_iff.mpr mem) mem distinct₁ distinct rfl whole
      whole'
  refine ⟨⟨?turns, ?outcome, ?servers, ?total, ?error⟩, fun e mem => (shares e mem).1⟩
  case turns => exact turns fun endpoint outcome => Prod.ext endpoint outcome
  case outcome =>
    obtain ⟨-, -, outcome⟩ := collectIn_of_turns whole
    obtain ⟨-, -, outcome'⟩ := collectIn_of_turns whole'
    have same := sameMetrics_outcomeOf (turns fun _ => EndpointTurn.metrics_congr)
      (turns fun _ => EndpointTurn.fault?_congr)
    rwa [← outcome, ← outcome'] at same
  case servers =>
    intro e mem
    obtain ⟨after, metrics⟩ := shares e mem
    exact ⟨after.up, after.registry.entry, after.registry.worlds.events,
      after.registry.worlds.queries, metrics⟩
  case total =>
    exact (scrapesTotal_collectIn whole).trans
      ((congrArg (· + 1) total).trans (scrapesTotal_collectIn whole').symm)
  case error =>
    have flags := (turns fun _ => EndpointTurn.hadErrors_congr).any_eq (f := id)
    rw [List.any_map, List.any_map] at flags
    exact (lastScrapeError_collectIn whole).trans
      (flags.trans (lastScrapeError_collectIn whole').symm)

end Two

/-- Runs of exporters that agree on all endpoints, one of them in any orders and the other with one
turn at a time. -/
theorem reordered_passesIn_of_agree {inputs : List (PassInput δ × List Endpoint)} {x y : Exporter}
    {v w : World δ} (agree : ∀ e ∈ y.endpoints, Agree e.fingerprint x v y w)
    (total : x.status.scrapesTotal = y.status.scrapesTotal) (sound : x.Sound) (sound' : y.Sound)
    (endpoints : x.endpoints = y.endpoints) (perm : ∀ i ∈ inputs, i.2.Perm y.endpoints)
    (distinct : (y.endpoints.map Endpoint.fingerprint).Nodup)
    (whole : ∀ r ∈ passes b (inputs.map Prod.fst) y w, ∀ a, r.outcome ≠ .error (.abort a)) :
    List.Forall₂ (PassResult.Reordered y.endpoints) (passesIn b inputs x v)
      (passes b (inputs.map Prod.fst) y w) := by
  induction inputs generalizing x y v w with
  | nil => exact .nil
  | cons input rest ih =>
    obtain ⟨i, order⟩ := input
    obtain ⟨first, others⟩ := List.forall_mem_cons.mp perm
    obtain ⟨one, later⟩ := List.forall_mem_cons.mp whole
    -- after a pass the exporters agree again, so the next one starts alike
    obtain ⟨pass, after⟩ := reordered_passIn agree total sound sound' first distinct one
    have sub : order ⊆ x.endpoints := endpoints ▸ first.subset
    have spec := collectSpec_collectIn sound b i.clock sub (v.drift i.drift)
    have spec' := collectSpec_collect sound' b i.clock (w.drift i.drift)
    have kept : (y.passOn b i w).exporter.endpoints = y.endpoints := spec'.same.endpoints
    refine .cons pass ?_
    rw [← kept]
    refine ih ?_ pass.total spec.sound spec'.sound ?_ ?_ ?_ later
    · exact kept ▸ after
    · exact spec.same.endpoints.trans (endpoints.trans kept.symm)
    · exact kept ▸ others
    · exact kept ▸ distinct

/-- Whatever the orders are in which the turns of a run end, every pass of it gives and leaves the
same as with one turn at a time. -/
theorem reordered_passesIn {c : Config} {files : String → FileState} {x : Exporter}
    (valid : c.validate = .ok ()) (reachable : Reachable b c files x)
    {inputs : List (PassInput δ × List Endpoint)}
    (completes : ∀ i ∈ inputs, Completes x.concurrency x.endpoints i.2) {w : World δ}
    (whole : ∀ r ∈ passes b (inputs.map Prod.fst) x w, ∀ a, r.outcome ≠ .error (.abort a)) :
    List.Forall₂ (PassResult.Reordered c.endpoints) (passesIn b inputs x w)
      (passes b (inputs.map Prod.fst) x w) := by
  have sound := sound_of_reachable reachable
  have endpoints := (configured_of_reachable reachable).endpoints
  have distinct := Config.nodup_of_validate valid
  rw [← endpoints] at distinct ⊢
  exact reordered_passesIn_of_agree (fun e _ => .refl e.fingerprint x w) rfl sound sound rfl
    (fun i mem => (completes i mem).perm) distinct whole

/-! ## One turn at a time -/

/-- A configuration that admits one turn at a time leaves a pass no other order. -/
theorem collectIn_eq_collect {c : Config} {files : String → FileState} {x : Exporter}
    (reachable : Reachable b c files x) (one : c.exporter.maxConcurrentScrapes = 1)
    {order : List Endpoint} (completes : Completes x.concurrency x.endpoints order)
    (clock : PassClock) (w : World δ) : x.collectIn b clock order w = x.collect b clock w := by
  rw [(configured_of_reachable reachable).concurrency, one] at completes
  rw [completes_one_iff.mp completes]
  rfl

end Exporter

end PgMetrics
