import PgMetrics.Proofs.Exporter.Interference
import PgMetrics.Proofs.Server.Faults

/-!
# What the status says after a pass

The status is kept from pass to pass, and each pass writes over what the last one left: which
servers were reached and whether something went wrong. What a pass writes is told here by the turns
of its endpoints, and a turn by the pass over the server that was acquired in it.

## Main definitions

* `EndpointTurn.reached`, `EndpointTurn.record?` — what came of acquiring a server.
* `EndpointTurn.Troubled` — the ways in which something went wrong in a turn.
* `Exporter.StatusSpec` — how a pass, its status and its outcome belong together.
-/

namespace PgMetrics

/-! ## Gauges of servers -/

namespace Status

/-- The status after some servers were reached and others not. -/
def setUps (s : Status) (l : List (String × Bool)) : Status :=
  l.foldl (fun s p => s.setUp p.1 p.2) s

theorem scrapesTotal_setUps (s : Status) (l : List (String × Bool)) :
    (s.setUps l).scrapesTotal = s.scrapesTotal := by
  unfold setUps
  induction l generalizing s with
  | nil => rfl
  | cons p rest ih => exact ih (s.setUp p.1 p.2)

theorem get?_up_setUp (s : Status) (reached fingerprint : String) (up : Bool) :
    (s.setUp reached up).up.get? fingerprint =
      if fingerprint = reached then some up else s.up.get? fingerprint := by
  unfold setUp
  rw [Dict.get?_insert]
  simp only [Std.LawfulEqCmp.compare_eq_iff_eq]

theorem get?_up_setUps_of_notMem (s : Status) {l : List (String × Bool)} {fingerprint : String}
    (absent : fingerprint ∉ l.map Prod.fst) :
    (s.setUps l).up.get? fingerprint = s.up.get? fingerprint := by
  unfold setUps
  induction l generalizing s with
  | nil => rfl
  | cons p rest ih =>
    obtain ⟨ne, others⟩ := not_or.mp (absent ∘ List.mem_cons.mpr)
    rw [List.foldl_cons, ih _ others, get?_up_setUp, if_neg ne]

/-- Each server has the gauge that was set for it. -/
theorem get?_up_setUps (s : Status) {l : List (String × Bool)}
    (distinct : (l.map Prod.fst).Nodup) {p : String × Bool} (mem : p ∈ l) :
    (s.setUps l).up.get? p.1 = some p.2 := by
  induction l generalizing s with
  | nil => cases mem
  | cons q rest ih =>
    obtain ⟨absent, others⟩ := List.nodup_cons.mp distinct
    rcases List.mem_cons.mp mem with rfl | mem
    · refine (get?_up_setUps_of_notMem (s.setUp p.1 p.2) absent).trans ?_
      rw [get?_up_setUp, if_pos rfl]
    · exact ih (s.setUp q.1 q.2) others mem

end Status

/-! ## A turn by the pass over its server -/

namespace EndpointTurn

variable {δ : Type} (b : Backend δ) (clock : PassClock) (t : EndpointTurn δ)

/-- Whether a server was acquired in the turn. -/
def reached : Bool := (t.before.registry.acquire b t.endpoint t.world).1.isOk

/-- The pass over the server that was acquired in the turn. -/
def record? : Option PassRecord :=
  match t.before.registry.acquire b t.endpoint t.world with
  | (.ok s, _, w) =>
    some (s.pass b t.before.catalog
      ⟨w, s.master, t.before.options, clock.now t.endpoint.fingerprint⟩).1
  | (.error _, _, _) => none

/-- Something went wrong in the turn. -/
inductive Troubled : Prop
  /-- No server was acquired. -/
  | unreachable (refused : t.reached b = false)
  /-- Something went wrong in the pass over the server. -/
  | scraped {r : PassRecord} (taken : t.record? b clock = some r) (troubled : r.Troubled)

/-- The unknown unit among the parameters of the server. -/
def unknownUnit? : Option SettingsError :=
  (t.record? b clock).bind fun r =>
    match r.settings with
    | .error e => some e
    | .ok _ => none

/-- What came of a turn: no server was acquired, or the pass over one decides. -/
inductive Course : Prop
  | refused (unreached : t.reached b = false) (unscraped : t.record? b clock = none)
      (outcome : t.outcome = .ok ⟨[], true⟩)
  | scraped {r : PassRecord} (version : VersionInfo → List Metric) (reached : t.reached b = true)
      (taken : t.record? b clock = some r) (coherent : r.Coherent)
      (outcome : t.outcome =
        match r.outcome with
        | .error stop => .error stop
        | .ok report =>
          match r.refreshed with
          | .ok info => .ok ⟨version info ++ report.metrics, report.hasErrors⟩
          | .error _ => .ok ⟨report.metrics, true⟩)

variable {b clock t}

/-- In a turn in which a server was acquired, what goes wrong goes wrong in the pass over it. -/
theorem troubled_iff_of_record {r : PassRecord} (reached : t.reached b = true)
    (taken : t.record? b clock = some r) : t.Troubled b clock ↔ r.Troubled := by
  constructor
  · intro troubled
    cases troubled with
    | unreachable refused => exact absurd (refused.symm.trans reached) Bool.false_ne_true
    | scraped taken' troubled =>
      obtain rfl := Option.some.inj (taken.symm.trans taken')
      exact troubled
  · exact .scraped taken

/-- A turn counts as one with an error if something went wrong in it. -/
theorem Course.hadErrors_iff (h : t.Course b clock)
    (whole : ∀ a, t.outcome ≠ .error (.abort a)) :
    t.hadErrors = true ↔ t.Troubled b clock := by
  unfold hadErrors
  cases h with
  | refused unreached unscraped outcome =>
    rw [outcome]
    exact ⟨fun _ => .unreachable unreached, fun _ => rfl⟩
  | @scraped r version reached taken coherent outcome =>
    have whole' (a : Abort) : r.outcome ≠ .error (.abort a) := by
      intro aborted
      rw [aborted] at outcome
      exact whole a outcome
    rw [troubled_iff_of_record reached taken, coherent.troubled_iff whole', outcome]
    cases ended : r.outcome with
    | error stop =>
      cases stop with
      | settings e => simp
      | abort a => exact absurd ended (whole' a)
    | ok report => cases r.refreshed <;> simp

theorem Course.fault?_eq (h : t.Course b clock) : t.fault? = t.unknownUnit? b clock := by
  unfold fault? unknownUnit?
  cases h with
  | refused unreached unscraped outcome =>
    rw [outcome, unscraped]
    rfl
  | @scraped r version reached taken coherent outcome =>
    rw [outcome, taken, Option.bind_some]
    cases given : r.settings with
    | error e => rw [(coherent.unit e given).1]
    | ok settings =>
      rcases coherent.report settings given with ⟨a, aborted⟩ | complete
      · rw [aborted]
      · rw [complete]
        cases r.refreshed <;> rfl

end EndpointTurn

namespace Exporter

variable {δ : Type}

section Turn

variable (b : Backend δ) (clock : PassClock) (x : Exporter) (e : Endpoint) (w : World δ)

theorem reached_turn {answer : Except ConnectionError Server} {registry : Registry} {w' : World δ}
    (acquired : x.registry.acquire b e w = (answer, registry, w')) :
    (x.turn b clock e w).reached b = answer.isOk := by
  unfold EndpointTurn.reached turn
  dsimp only
  rw [acquired]

theorem record?_turn_of_acquire {s : Server} {registry : Registry} {w' : World δ}
    (acquired : x.registry.acquire b e w = (.ok s, registry, w')) :
    (x.turn b clock e w).record? b clock =
      some (s.pass b x.catalog ⟨w', s.master, x.options, clock.now e.fingerprint⟩).1 := by
  unfold EndpointTurn.record? turn
  dsimp only
  rw [acquired]

theorem record?_turn_of_refusal {error : ConnectionError} {registry : Registry} {w' : World δ}
    (acquired : x.registry.acquire b e w = (.error error, registry, w')) :
    (x.turn b clock e w).record? b clock = none := by
  unfold EndpointTurn.record? turn
  dsimp only
  rw [acquired]

theorem course_turn : (x.turn b clock e w).Course b clock := by
  rcases acquired : x.registry.acquire b e w with ⟨answer, registry, w'⟩
  have reached := reached_turn b clock x e w acquired
  cases answer with
  | error error =>
    refine .refused reached (record?_turn_of_refusal b clock x e w acquired) ?_
    exact congrArg Prod.fst (scrapeEndpoint_of_refusal clock acquired)
  | ok s =>
    let version (info : VersionInfo) : List Metric :=
      if s.master && x.defaultMetrics then [x.versionMetric s info] else []
    have coherent := Server.coherent_pass b x.catalog
      ⟨w', s.master, x.options, clock.now e.fingerprint⟩ s
    exact .scraped version reached (record?_turn_of_acquire b clock x e w acquired) coherent
      (scrapeEndpoint_of_acquire clock acquired).2

theorem status_turn :
    (x.turn b clock e w).after.status =
      x.status.setUp e.fingerprint ((x.turn b clock e w).reached b) := by
  unfold EndpointTurn.reached turn
  dsimp only
  rcases acquired : x.registry.acquire b e w with ⟨answer, registry, w'⟩
  cases answer with
  | error error =>
    rw [scrapeEndpoint_of_refusal clock acquired]
    rfl
  | ok s =>
    rw [(scrapeEndpoint_of_acquire clock acquired).1]
    rfl

end Turn

/-! ## A pass -/

/-- Which servers the turns reached, by fingerprint. -/
def upOf (b : Backend δ) (turns : List (EndpointTurn δ)) : List (String × Bool) :=
  turns.map fun t => (t.endpoint.fingerprint, t.reached b)

section Pass

variable {b : Backend δ} {clock : PassClock} {x : Exporter} {w : World δ}

theorem status_scrapeEndpoints {l : List Endpoint} {c c' : Collected} {x' : Exporter}
    {w' : World δ} (h : scrapeEndpoints b clock l c x w = (.ok c', x', w')) :
    x'.status = x.status.setUps (upOf b (endpointTurns b clock l x w)) := by
  induction l generalizing c x w with
  | nil =>
    cases h
    rfl
  | cons e rest ih =>
    obtain ⟨c₁, first, later⟩ := followed_of_scrapeEndpoints h
    have turns : endpointTurns b clock (e :: rest) x w = _ := first.turns
    rw [ih later, status_turn, turns]
    rfl

/-- A pass that does not abort writes the gauge of every server that had a turn and the flag. -/
theorem status_collectIn {order : List Endpoint}
    (whole : ∀ a, (x.collectIn b clock order w).1 ≠ .error (.abort a)) :
    (x.collectIn b clock order w).2.1.status =
      (x.status.beginPass.setUps (upOf b (x.turnsIn b clock order w))).endPass
        ((x.turnsIn b clock order w).any EndpointTurn.hadErrors) clock.duration := by
  unfold turnsIn
  unfold collectIn at whole ⊢
  dsimp only at whole ⊢
  rcases scraped : scrapeEndpoints b clock order ⟨[], false, none⟩
    { x with status := x.status.beginPass } w with ⟨answer, x', w'⟩
  rw [scraped] at whole
  cases answer with
  | error a => exact absurd rfl (whole a)
  | ok c =>
    have spec := whole_of_scrapeEndpoints scraped
    have status := status_scrapeEndpoints scraped
    have errors := spec.hadErrors
    rw [Bool.false_or] at errors
    dsimp only
    rw [← errors, ← status]
    cases c.fault <;> rfl

theorem scrapesTotal_collectIn {order : List Endpoint}
    (whole : ∀ a, (x.collectIn b clock order w).1 ≠ .error (.abort a)) :
    (x.collectIn b clock order w).2.1.status.scrapesTotal = x.status.scrapesTotal + 1 := by
  rw [status_collectIn whole]
  exact Status.scrapesTotal_setUps _ _

theorem lastScrapeError_collectIn {order : List Endpoint}
    (whole : ∀ a, (x.collectIn b clock order w).1 ≠ .error (.abort a)) :
    (x.collectIn b clock order w).2.1.status.lastScrapeError =
      (x.turnsIn b clock order w).any EndpointTurn.hadErrors := by
  rw [status_collectIn whole]
  rfl

theorem course_of_mem {i : PassInput δ} (sound : x.Sound) {t : EndpointTurn δ}
    (mem : t ∈ (x.passOn b i w).turns) : t.Course b i.clock := by
  obtain ⟨-, -, same⟩ := turn_of_mem (x := { x with status := x.status.beginPass }) sound mem
  rw [same]
  exact course_turn b i.clock t.before t.endpoint t.world

/-- The flag says whether something went wrong in the turns of the pass. -/
theorem lastScrapeError_passOn {i : PassInput δ} (sound : x.Sound)
    (whole : ∀ a, (x.passOn b i w).outcome ≠ .error (.abort a)) :
    (x.passOn b i w).exporter.status.lastScrapeError = true ↔
      ∃ t ∈ (x.passOn b i w).turns, t.Troubled b i.clock := by
  obtain ⟨-, taken, -⟩ := collectIn_of_turns whole
  have flag : (x.passOn b i w).exporter.status.lastScrapeError = _ :=
    lastScrapeError_collectIn whole
  rw [flag]
  refine List.any_eq_true.trans (exists_congr fun t => and_congr_right fun mem => ?_)
  exact (course_of_mem sound mem).hadErrors_iff (taken t mem)

/-- How a pass over some endpoints, its status and its outcome belong together. -/
structure StatusSpec (b : Backend δ) (clock : PassClock) (endpoints : List Endpoint) (calls : Nat)
    (r : PassResult δ) : Prop where
  turns : r.turns.map (·.endpoint) = endpoints
  total : r.exporter.status.scrapesTotal = calls
  up : ∀ t ∈ r.turns,
    r.exporter.status.up.get? t.endpoint.fingerprint = some (t.reached b)
  error : r.exporter.status.lastScrapeError = true ↔ ∃ t ∈ r.turns, t.Troubled b clock
  outcome : r.outcome =
    match r.turns.findSome? fun t => t.unknownUnit? b clock with
    | some e => .error (.fault e)
    | none => .ok (r.turns.flatMap EndpointTurn.metrics)

theorem statusSpec_passOn {i : PassInput δ} (sound : x.Sound)
    (distinct : (x.endpoints.map Endpoint.fingerprint).Nodup)
    (whole : ∀ a, (x.passOn b i w).outcome ≠ .error (.abort a)) :
    StatusSpec b i.clock x.endpoints (x.status.scrapesTotal + 1) (x.passOn b i w) := by
  obtain ⟨endpoints, -, outcome⟩ := collectIn_of_turns whole
  have status : (x.passOn b i w).exporter.status = _ := status_collectIn whole
  have faults : (x.passOn b i w).turns.findSome? EndpointTurn.fault? =
      (x.passOn b i w).turns.findSome? fun t => t.unknownUnit? b i.clock := by
    rw [← List.head?_filterMap, ← List.head?_filterMap,
      List.filterMap_congr fun t mem => (course_of_mem sound mem).fault?_eq]
  refine ⟨endpoints, scrapesTotal_collectIn whole, fun t mem => ?_,
    lastScrapeError_passOn sound whole, ?_⟩
  · have names : (upOf b (x.passOn b i w).turns).map Prod.fst =
        x.endpoints.map Endpoint.fingerprint := by
      rw [← endpoints]
      simp [upOf, passOn, turnsOf]
    rw [status]
    exact Status.get?_up_setUps _ (names ▸ distinct) (List.mem_map_of_mem mem)
  · refine outcome.trans ?_
    unfold outcomeOf
    rw [← faults]
    rfl

end Pass

/-! ## A run -/

theorem scrapesTotal_of_new {c : Config} {files : String → FileState} {x : Exporter}
    (h : Exporter.new c files = .ok x) : x.status.scrapesTotal = 0 := by
  unfold Exporter.new at h
  obtain ⟨status, created, h⟩ := bind_eq_ok.mp h
  dsimp only at h
  obtain ⟨catalog, -, h⟩ := bind_eq_ok.mp h
  cases h
  have start : status.scrapesTotal = 0 := by
    unfold Status.new at created
    cases named : Status.checkNames c.exporter.metricPrefix c.exporter.constantLabels with
    | error e =>
      rw [named] at created
      cases created
    | ok =>
      rw [named] at created
      cases created
      rfl
  dsimp only
  split
  · unfold loadUserQueries
    split <;> exact start
  · exact start

theorem statusSpec_passes {b : Backend δ} {inputs : List (PassInput δ)} {x : Exporter}
    {w : World δ} (sound : x.Sound) (distinct : (x.endpoints.map Endpoint.fingerprint).Nodup)
    (whole : ∀ r ∈ passes b inputs x w, ∀ a, r.outcome ≠ .error (.abort a)) {n : Nat}
    {i : PassInput δ} (input : inputs[n]? = some i) :
    ∃ r, (passes b inputs x w)[n]? = some r ∧
      StatusSpec b i.clock x.endpoints (x.status.scrapesTotal + (n + 1)) r := by
  induction inputs generalizing n x w with
  | nil => cases input
  | cons j rest ih =>
    obtain ⟨one, others⟩ := List.forall_mem_cons.mp whole
    have first := statusSpec_passOn sound distinct one
    cases n with
    | zero =>
      cases input
      exact ⟨_, rfl, first⟩
    | succ n =>
      have spec := collectSpec_collect sound b j.clock (w.drift j.drift)
      have kept : (x.passOn b j w).exporter.endpoints = x.endpoints := spec.same.endpoints
      obtain ⟨r, result, later⟩ :=
        ih (x := (x.passOn b j w).exporter) spec.sound (kept ▸ distinct) others input
      refine ⟨r, result, ?_⟩
      -- the pass before was the one call more
      rw [first.total, kept, Nat.add_assoc, Nat.add_comm 1] at later
      exact later

/-- After every pass the status describes that pass and no other, and the outcome of the pass is the
first unknown unit or all metrics. -/
theorem status_describes_pass {b : Backend δ} {c : Config} {files : String → FileState}
    {x : Exporter} (valid : c.validate = .ok ()) (created : Exporter.new c files = .ok x)
    {inputs : List (PassInput δ)} {w : World δ}
    (whole : ∀ r ∈ passes b inputs x w, ∀ a, r.outcome ≠ .error (.abort a)) {n : Nat}
    {i : PassInput δ} (input : inputs[n]? = some i) :
    ∃ r, (passes b inputs x w)[n]? = some r ∧
      StatusSpec b i.clock c.endpoints (n + 1) r := by
  have endpoints := endpoints_of_new created
  have distinct := Config.nodup_of_validate valid
  rw [← endpoints] at distinct
  obtain ⟨r, result, spec⟩ := statusSpec_passes (sound_of_new created) distinct whole input
  refine ⟨r, result, ?_⟩
  rwa [endpoints, scrapesTotal_of_new created, Nat.zero_add] at spec

namespace OddUnit

/-- A server that is never reached and one with a parameter. -/
def dead : Endpoint := .ofHost "dead"

def odd : Endpoint := .ofHost "odd"

def config : Config :=
  { Config.standard with
    exporter := { ScrapeConfig.standard with disableDefaultMetrics := true }
    endpoints := [dead, odd] }

/-- Databases that know the unit of their parameter, or cannot be reached. -/
def backend : Backend (Option String) where
  connect _ unit := (if unit.isSome then .ok () else .error (.connect "refused"), unit)
  ping unit := (.ok (), unit)
  query sql unit :=
    if sql = versionQuery then (.ok ⟨["version"], [[.text "PostgreSQL 14.0"]]⟩, unit)
    else
      (.ok ⟨[], [[.text "width", .text "1", .text (unit.getD ""), .text "", .text "integer"]]⟩,
        unit)
  close unit := unit

/-- At first the parameter has no unit. -/
def databases (server : String) : Option String :=
  if server = odd.fingerprint then some "" else none

def clock : PassClock := ⟨fun _ => default, 0.0⟩

/-- Between two passes the parameter gets an odd unit. -/
def inputs : List (PassInput (Option String)) :=
  [⟨clock, fun _ => id⟩, ⟨clock, fun _ unit => unit.map fun _ => "ell"⟩]

theorem exporter_isSome : (Exporter.new config fun _ => .missing).toOption.isSome = true := by
  decide +kernel

def exporter : Exporter := (Exporter.new config fun _ => .missing).toOption.get exporter_isSome

def run : List (PassResult (Option String)) := exporter.passes backend inputs ⟨databases, []⟩

/-- The first pass gives metrics, the second ends with the odd unit. -/
theorem outcomes_of_run :
    run.map (fun r => r.outcome.map fun _ => ()) =
      [.ok (), .error (.fault (.unknownUnit "width" "ell"))] := by
  decide +kernel

/-- The status of the second pass is that of a second pass. -/
theorem status_of_run :
    ∃ r, run[1]? = some r ∧ StatusSpec backend clock [dead, odd] 2 r ∧
      r.outcome.map (fun _ => ()) = .error (.fault (.unknownUnit "width" "ell")) := by
  have valid : config.validate = .ok () := by
    decide +kernel
  have whole : ∀ r ∈ run, ∀ a, r.outcome ≠ .error (.abort a) := by
    intro r mem a aborted
    have outcome := List.mem_map_of_mem (f := fun r => r.outcome.map fun _ => ()) mem
    rw [outcomes_of_run, aborted] at outcome
    simp [Except.map] at outcome
  obtain ⟨r, result, spec⟩ :=
    status_describes_pass valid (eq_ok_get_toOption exporter_isSome) whole (n := 1) rfl
  have second : run[1]? = some r := result
  refine ⟨r, second, spec, ?_⟩
  have outcome := congrArg (·[1]?) outcomes_of_run
  simpa [second] using outcome

end OddUnit

end Exporter

end PgMetrics
