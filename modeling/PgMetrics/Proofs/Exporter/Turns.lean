import PgMetrics.Proofs.Exporter.Passes
import PgMetrics.Proofs.Server.Likeness

/-!
# The turns of the endpoints

In a pass the turns of the endpoints end one after the other. Only an abort ends them all: an
endpoint that cannot be reached, whose namespaces fail or whose parameters have an unknown unit is
followed by the next one all the same. The turn of an endpoint leaves the share of any other
endpoint alone, and what comes of a turn depends on the share of its endpoint only.

## Main definitions

* `EndpointTurn`, `Exporter.turnsIn`, `Exporter.turnsOf` — the turns of a pass.
* `Exporter.Agree` — exporters and worlds with the same share of an endpoint.
-/

namespace PgMetrics

/-- A turn of an endpoint: what it found, what came of it, and what it left. -/
structure EndpointTurn (δ : Type) where
  endpoint : Endpoint
  before : Exporter
  world : World δ
  outcome : Except PassStop EndpointScrape
  after : Exporter
  worldAfter : World δ

namespace EndpointTurn

variable {δ : Type}

def metrics (t : EndpointTurn δ) : List Metric :=
  match t.outcome with
  | .ok scrape => scrape.metrics
  | .error _ => []

/-- Whether the turn counts as one with an error. -/
def hadErrors (t : EndpointTurn δ) : Bool :=
  match t.outcome with
  | .ok scrape => scrape.hadErrors
  | .error _ => true

/-- The unknown unit that ended the turn. -/
def fault? (t : EndpointTurn δ) : Option SettingsError :=
  match t.outcome with
  | .error (.settings e) => some e
  | _ => none

section Outcome

variable {t u : EndpointTurn δ} (h : t.outcome = u.outcome)
include h

theorem metrics_congr : t.metrics = u.metrics := by
  unfold metrics
  rw [h]

theorem hadErrors_congr : t.hadErrors = u.hadErrors := by
  unfold hadErrors
  rw [h]

theorem fault?_congr : t.fault? = u.fault? := by
  unfold fault?
  rw [h]

end Outcome

end EndpointTurn

namespace Exporter

variable {δ : Type}

/-- The turn of an endpoint. -/
def turn (b : Backend δ) (clock : PassClock) (x : Exporter) (e : Endpoint) (w : World δ) :
    EndpointTurn δ :=
  let result := x.scrapeEndpoint b clock e w
  ⟨e, x, w, result.1, result.2.1, result.2.2⟩

/-- The turns of the endpoints of a list, up to one that aborts. -/
def endpointTurns (b : Backend δ) (clock : PassClock) :
    List Endpoint → Exporter → World δ → List (EndpointTurn δ)
  | [], _, _ => []
  | e :: rest, x, w =>
    let t := x.turn b clock e w
    match t.outcome with
    | .error (.abort _) => [t]
    | _ => t :: endpointTurns b clock rest t.after t.worldAfter

/-- The turns of a pass in which they end in the given order. -/
def turnsIn (b : Backend δ) (clock : PassClock) (order : List Endpoint) (x : Exporter)
    (w : World δ) : List (EndpointTurn δ) :=
  endpointTurns b clock order { x with status := x.status.beginPass } w

/-- The turns of a pass with one turn at a time. -/
def turnsOf (b : Backend δ) (clock : PassClock) (x : Exporter) (w : World δ) :
    List (EndpointTurn δ) :=
  x.turnsIn b clock x.endpoints w

/-- What a pass gives by its turns: all their metrics, or the first unknown unit. -/
def outcomeOf (turns : List (EndpointTurn δ)) : Except CollectStop (List Metric) :=
  match turns.findSome? EndpointTurn.fault? with
  | some e => .error (.fault e)
  | none => .ok (turns.flatMap EndpointTurn.metrics)

theorem endpoints_of_new {c : Config} {files : String → FileState} {x : Exporter}
    (h : Exporter.new c files = .ok x) : x.endpoints = c.endpoints := by
  obtain ⟨catalog, status, rfl⟩ := eq_of_new h
  rfl

/-! ## A pass from its turns -/

/-- What a turn adds to what was collected, and that the others follow it. -/
structure Followed (b : Backend δ) (clock : PassClock) (l : List Endpoint) (c c₁ : Collected)
    (t : EndpointTurn δ) : Prop where
  taken : ∀ a, t.outcome ≠ .error (.abort a)
  metrics : c₁.metrics = c.metrics ++ t.metrics
  hadErrors : c₁.hadErrors = (c.hadErrors || t.hadErrors)
  fault : c₁.fault = c.fault.or t.fault?
  turns : endpointTurns b clock (t.endpoint :: l) t.before t.world =
    t :: endpointTurns b clock l t.after t.worldAfter

theorem followed_of_scrapeEndpoints {b : Backend δ} {clock : PassClock} {e : Endpoint}
    {l : List Endpoint} {c c' : Collected} {x x' : Exporter} {w w' : World δ}
    (h : scrapeEndpoints b clock (e :: l) c x w = (.ok c', x', w')) :
    ∃ c₁, Followed b clock l c c₁ (x.turn b clock e w) ∧
      scrapeEndpoints b clock l c₁ (x.turn b clock e w).after (x.turn b clock e w).worldAfter =
        (.ok c', x', w') := by
  unfold scrapeEndpoints at h
  rcases scraped : x.scrapeEndpoint b clock e w with ⟨outcome, x₁, w₁⟩
  rw [scraped] at h
  have taken : x.turn b clock e w = ⟨e, x, w, outcome, x₁, w₁⟩ := by
    unfold turn
    rw [scraped]
  rw [taken]
  cases outcome with
  | error stop =>
    cases stop with
    | abort a => cases h
    | settings error =>
      refine ⟨c.add (.error error),
        ⟨by simp, (List.append_nil _).symm, (Bool.or_true _).symm, rfl, ?_⟩, h⟩
      rw [endpointTurns, taken]
  | ok scrape =>
    refine ⟨c.add (.ok scrape), ⟨by simp, rfl, rfl, (Option.or_none).symm, ?_⟩, h⟩
    rw [endpointTurns, taken]

/-- The turns of a list that no abort ended, and what was collected in them. -/
structure Whole (b : Backend δ) (clock : PassClock) (l : List Endpoint) (c : Collected)
    (x : Exporter) (w : World δ) (c' : Collected) : Prop where
  endpoints : (endpointTurns b clock l x w).map (·.endpoint) = l
  metrics : c'.metrics = c.metrics ++ (endpointTurns b clock l x w).flatMap EndpointTurn.metrics
  hadErrors : c'.hadErrors =
    (c.hadErrors || (endpointTurns b clock l x w).any EndpointTurn.hadErrors)
  fault : c'.fault = c.fault.or ((endpointTurns b clock l x w).findSome? EndpointTurn.fault?)
  taken : ∀ t ∈ endpointTurns b clock l x w, ∀ a, t.outcome ≠ .error (.abort a)

theorem whole_of_scrapeEndpoints {b : Backend δ} {clock : PassClock} {l : List Endpoint}
    {c c' : Collected} {x x' : Exporter} {w w' : World δ}
    (h : scrapeEndpoints b clock l c x w = (.ok c', x', w')) : Whole b clock l c x w c' := by
  induction l generalizing c x w with
  | nil =>
    cases h
    refine ⟨rfl, (List.append_nil _).symm, (Bool.or_false _).symm, (Option.or_none).symm, ?_⟩
    intro t mem
    cases mem
  | cons e rest ih =>
    obtain ⟨c₁, first, later⟩ := followed_of_scrapeEndpoints h
    obtain ⟨endpoints, metrics, hadErrors, fault, taken⟩ := ih later
    have turns : endpointTurns b clock (e :: rest) x w = _ := first.turns
    constructor
    all_goals rw [turns]
    · exact congrArg (e :: ·) endpoints
    · rw [metrics, first.metrics]
      exact List.append_assoc _ _ _
    · rw [hadErrors, first.hadErrors]
      exact Bool.or_assoc _ _ _
    · rw [fault, first.fault, List.findSome?_cons]
      cases (x.turn b clock e w).fault? with
      | none => rw [Option.or_none]
      | some error => exact Option.or_assoc
    · exact List.forall_mem_cons.mpr ⟨first.taken, taken⟩

/-- A pass that does not abort gives every endpoint its turn, and the turns tell its outcome. -/
theorem collectIn_of_turns {b : Backend δ} {clock : PassClock} {order : List Endpoint}
    {x : Exporter} {w : World δ}
    (whole : ∀ a, (x.collectIn b clock order w).1 ≠ .error (.abort a)) :
    (x.turnsIn b clock order w).map (·.endpoint) = order ∧
      (∀ t ∈ x.turnsIn b clock order w, ∀ a, t.outcome ≠ .error (.abort a)) ∧
      (x.collectIn b clock order w).1 = outcomeOf (x.turnsIn b clock order w) := by
  unfold turnsIn outcomeOf
  unfold collectIn at whole ⊢
  dsimp only at whole ⊢
  rcases scraped : scrapeEndpoints b clock order ⟨[], false, none⟩
    { x with status := x.status.beginPass } w with ⟨answer, x', w'⟩
  rw [scraped] at whole
  cases answer with
  | error a => exact absurd rfl (whole a)
  | ok c =>
    obtain ⟨endpoints, metrics, -, fault, taken⟩ := whole_of_scrapeEndpoints scraped
    refine ⟨endpoints, taken, ?_⟩
    dsimp only
    rw [fault, metrics]
    cases List.findSome? EndpointTurn.fault? _ <;> rfl

/-- The metrics of a pass are those of the turns. -/
theorem metrics_of_collectIn {b : Backend δ} {clock : PassClock} {order : List Endpoint}
    {x : Exporter} {w : World δ} {metrics : List Metric}
    (collected : (x.collectIn b clock order w).1 = .ok metrics) :
    (x.turnsIn b clock order w).map (·.endpoint) = order ∧
      metrics = (x.turnsIn b clock order w).flatMap EndpointTurn.metrics := by
  have whole (a : Abort) : (x.collectIn b clock order w).1 ≠ .error (.abort a) := by
    rw [collected]
    nofun
  obtain ⟨endpoints, -, outcome⟩ := collectIn_of_turns whole
  refine ⟨endpoints, ?_⟩
  rw [collected] at outcome
  unfold outcomeOf at outcome
  split at outcome
  case h_1 => cases outcome
  case h_2 => exact Except.ok.inj outcome

/-! ## The share of an endpoint -/

/-- Two exporters and their worlds are the same for one server: they scrape by the same rules, and
have the same gauge, the same server and the same database for it. -/
structure Agree (fingerprint : String) (x : Exporter) (v : World δ) (y : Exporter) (w : World δ) :
    Prop where
  catalog : x.catalog = y.catalog
  options : x.options = y.options
  defaultMetrics : x.defaultMetrics = y.defaultMetrics
  registry : Registry.Agree fingerprint x.registry v y.registry w
  up : x.status.up.get? fingerprint = y.status.up.get? fingerprint

section Agree

variable {fingerprint : String} {x y z : Exporter} {u v w : World δ}

theorem Agree.refl (fingerprint : String) (x : Exporter) (w : World δ) :
    Agree fingerprint x w x w :=
  ⟨rfl, rfl, rfl, ⟨rfl, rfl, rfl, .refl fingerprint w⟩, rfl⟩

theorem Agree.symm (h : Agree fingerprint x v y w) : Agree fingerprint y w x v :=
  ⟨h.catalog.symm, h.options.symm, h.defaultMetrics.symm, h.registry.symm, h.up.symm⟩

theorem Agree.trans (h : Agree fingerprint x u y v) (g : Agree fingerprint y v z w) :
    Agree fingerprint x u z w :=
  ⟨h.catalog.trans g.catalog, h.options.trans g.options, h.defaultMetrics.trans g.defaultMetrics,
    h.registry.trans g.registry, h.up.trans g.up⟩

theorem Sound.named (h : x.Sound) (fingerprint : String) :
    Registry.Named fingerprint x.registry :=
  fun s found => (h fingerprint s found).1

/-- The turn of an acquired server is a pass over the registered server. -/
theorem state_scrapeEndpoint {b : Backend δ} (clock : PassClock) {e : Endpoint} {s : Server}
    {registry : Registry} (acquired : x.registry.acquire b e v = (.ok s, registry, w))
    (found : registry.servers.get? e.fingerprint = some s) :
    (x.scrapeEndpoint b clock e v).2 =
      ({ x with
          registry := (registry.scrape b e.fingerprint x.catalog x.options
            (clock.now e.fingerprint) w).1
          status := x.status.setUp e.fingerprint true },
        (registry.scrape b e.fingerprint x.catalog x.options (clock.now e.fingerprint) w).2) := by
  unfold scrapeEndpoint refreshServer Registry.scrape
  rw [acquired, found]
  dsimp only
  rcases s.refresh b x.catalog w with ⟨answer, s₁, w₁⟩
  cases answer with
  | ok info =>
    dsimp only
    rcases s₁.scrape b x.options (clock.now e.fingerprint) w₁ with ⟨outcome, s₂, w₂⟩
    cases outcome <;> rfl
  | error error =>
    dsimp only
    rcases s₁.scrape b x.options (clock.now e.fingerprint) w₁ with ⟨outcome, s₂, w₂⟩
    cases outcome <;> rfl

theorem up_setUp_of_ne (s : Status) {reached : String} (up : Bool) (ne : fingerprint ≠ reached) :
    (s.setUp reached up).up.get? fingerprint = s.up.get? fingerprint := by
  unfold Status.setUp
  rw [Dict.get?_insert, if_neg]
  rwa [Std.LawfulEqCmp.compare_eq_iff_eq]

/-- A turn leaves the shares of the other endpoints alone. -/
theorem agree_scrapeEndpoint (h : x.Sound) (b : Backend δ) (clock : PassClock) (e : Endpoint)
    (w : World δ) (ne : fingerprint ≠ e.fingerprint) :
    Agree fingerprint x w (x.scrapeEndpoint b clock e w).2.1
      (x.scrapeEndpoint b clock e w).2.2 := by
  obtain ⟨served, registered⟩ := Registry.served_acquire b (h.named e.fingerprint) w
  rcases acquired : x.registry.acquire b e w with ⟨answer, registry, w'⟩
  rw [acquired] at served registered
  have confined : Registry.Confined e.fingerprint x.registry w registry w' := served.toConfined
  cases answer with
  | error error =>
    rw [scrapeEndpoint_of_refusal clock acquired]
    exact ⟨rfl, rfl, rfl, confined.agree ne, (up_setUp_of_ne x.status false ne).symm⟩
  | ok s =>
    rw [state_scrapeEndpoint clock acquired (registered s rfl)]
    have scraped := Registry.served_scrape b served.named x.catalog x.options
      (clock.now e.fingerprint) w'
    exact ⟨rfl, rfl, rfl, (confined.trans scraped.toConfined).agree ne,
      (up_setUp_of_ne x.status true ne).symm⟩

theorem up_setUp (s t : Status) (fingerprint : String) (up : Bool) :
    (s.setUp fingerprint up).up.get? fingerprint =
      (t.setUp fingerprint up).up.get? fingerprint := by
  unfold Status.setUp
  rw [Dict.get?_insert, Dict.get?_insert, if_pos Std.ReflCmp.compare_self,
    if_pos Std.ReflCmp.compare_self]

theorem refreshServer_of_twins (b : Backend δ) {s t : Server} (catalog : x.catalog = y.catalog)
    (defaults : x.defaultMetrics = y.defaultMetrics)
    (twins : Server.Twins fingerprint s v t w) :
    (x.refreshServer b s v).1 = (y.refreshServer b t w).1 ∧
      Server.Twins fingerprint (x.refreshServer b s v).2.1 (x.refreshServer b s v).2.2
        (y.refreshServer b t w).2.1 (y.refreshServer b t w).2.2 := by
  obtain ⟨answer, twins'⟩ := twins.refresh b x.catalog
  have version (s : Server) (info : VersionInfo) :
      x.versionMetric s info = y.versionMetric s info := by
    unfold versionMetric
    rw [catalog]
  obtain ⟨a, ⟨s', v'⟩, ⟨t', w'⟩, first, second⟩ := exists_outcome answer
  unfold refreshServer
  rw [← catalog]
  rw [first, second] at twins' ⊢
  cases a with
  | error e => exact ⟨rfl, twins'⟩
  | ok info =>
    obtain ⟨serial, rfl⟩ := Server.exists_serial twins'.alike
    refine ⟨?_, twins'⟩
    dsimp only
    rw [defaults, version]
    rfl

/-- What comes of a turn depends on the share of its endpoint and on the time. -/
theorem Agree.scrapeEndpoint (b : Backend δ) {e : Endpoint} (h : Agree e.fingerprint x v y w)
    (sound : x.Sound) {clock clock' : PassClock}
    (time : clock.now e.fingerprint = clock'.now e.fingerprint) :
    (x.scrapeEndpoint b clock e v).1 = (y.scrapeEndpoint b clock' e w).1 ∧
      Agree e.fingerprint (x.scrapeEndpoint b clock e v).2.1 (x.scrapeEndpoint b clock e v).2.2
        (y.scrapeEndpoint b clock' e w).2.1 (y.scrapeEndpoint b clock' e w).2.2 := by
  have named := sound.named e.fingerprint
  obtain ⟨served, registered⟩ := Registry.served_acquire b named v
  obtain ⟨answer, agree⟩ := h.registry.acquire b named
  unfold Exporter.scrapeEndpoint
  generalize x.registry.acquire b e v = p at served registered answer agree ⊢
  generalize y.registry.acquire b e w = q at answer agree ⊢
  obtain ⟨a, registry, v'⟩ := p
  obtain ⟨a', registry', w'⟩ := q
  cases a with
  | error error =>
    cases a' with
    | ok t => cases answer
    | error error' =>
      exact ⟨rfl, h.catalog, h.options, h.defaultMetrics, agree, up_setUp _ _ _ false⟩
  | ok s =>
    cases a' with
    | error error' => cases answer
    | ok t =>
      have alike : s.unnumbered = t.unnumbered := Except.ok.inj answer
      have name : s.fingerprint = e.fingerprint := served.named s (registered s rfl)
      have twins : Server.Twins e.fingerprint s v' t w' := ⟨name, alike, agree.worlds⟩
      obtain ⟨first, refreshed⟩ := refreshServer_of_twins b h.catalog h.defaultMetrics twins
      obtain ⟨version, ⟨s₁, v₁⟩, ⟨t₁, w₁⟩, left, right⟩ := exists_outcome first
      rw [left, right] at refreshed
      obtain ⟨outcome, scraped⟩ := refreshed.scrape b x.options (clock.now e.fingerprint)
      -- the servers are scraped by the same rules at the same time
      have rules : t₁.scrape b y.options (clock'.now e.fingerprint) w₁ =
          t₁.scrape b x.options (clock.now e.fingerprint) w₁ := by
        rw [h.options, time]
      obtain ⟨given, ⟨s₂, v₂⟩, ⟨t₂, w₂⟩, left', right'⟩ := exists_outcome outcome
      dsimp only at left' right' scraped ⊢
      rw [left', right'] at scraped
      rw [left, right]
      dsimp only
      rw [rules, left', right']
      have entered := (agree.of_worlds scraped.worlds).put scraped.alike
      have after : Agree e.fingerprint
          { x with
            registry := registry.put s₂
            status := x.status.setUp e.fingerprint true } v₂
          { y with
            registry := registry'.put t₂
            status := y.status.setUp e.fingerprint true } w₂ :=
        ⟨h.catalog, h.options, h.defaultMetrics, entered, up_setUp _ _ _ true⟩
      cases given <;> exact ⟨rfl, after⟩

end Agree

/-! ## One turn among all -/

theorem mem_endpointTurns_cons (b : Backend δ) (clock : PassClock) (e : Endpoint)
    (rest : List Endpoint) (x : Exporter) (w : World δ) :
    x.turn b clock e w ∈ endpointTurns b clock (e :: rest) x w := by
  unfold endpointTurns
  dsimp only
  split <;> exact List.mem_cons_self

theorem endpointTurns_cons {b : Backend δ} {clock : PassClock} {e : Endpoint}
    {rest : List Endpoint} {x : Exporter} {w : World δ} {t : EndpointTurn δ}
    (mem : t ∈ endpointTurns b clock (e :: rest) x w) :
    t = x.turn b clock e w ∨
      t ∈ endpointTurns b clock rest (x.turn b clock e w).after
        (x.turn b clock e w).worldAfter := by
  unfold endpointTurns at mem
  dsimp only at mem
  split at mem
  case h_1 => exact .inl (List.mem_singleton.mp mem)
  case h_2 => exact List.mem_cons.mp mem

/-- What every turn of a pass starts with. -/
theorem turn_of_mem {b : Backend δ} {clock : PassClock} {l : List Endpoint} {x : Exporter}
    {w : World δ} (sound : x.Sound) {t : EndpointTurn δ}
    (mem : t ∈ endpointTurns b clock l x w) :
    t.before.Sound ∧ x.SameSettings t.before ∧
      t = t.before.turn b clock t.endpoint t.world := by
  induction l generalizing x w with
  | nil => cases mem
  | cons e rest ih =>
    have spec := endpointSpec_scrapeEndpoint sound b clock e w
    rcases endpointTurns_cons mem with rfl | later
    · exact ⟨sound, .refl x, rfl⟩
    · obtain ⟨sound', same, taken⟩ := ih spec.sound later
      exact ⟨sound', spec.same.trans same, taken⟩

theorem endpoint_of_mem {b : Backend δ} {clock : PassClock} {l : List Endpoint} {x : Exporter}
    {w : World δ} {t : EndpointTurn δ} (mem : t ∈ endpointTurns b clock l x w) :
    t.endpoint ∈ l := by
  induction l generalizing x w with
  | nil => cases mem
  | cons e rest ih =>
    rcases endpointTurns_cons mem with rfl | later
    · exact List.mem_cons_self
    · exact List.mem_cons_of_mem _ (ih later)

/-- What every turn of a pass leaves. -/
theorem after_of_mem {b : Backend δ} {clock : PassClock} {l : List Endpoint} {x : Exporter}
    {w : World δ} (sound : x.Sound) {t : EndpointTurn δ}
    (mem : t ∈ endpointTurns b clock l x w) : t.after.Sound ∧ x.SameSettings t.after := by
  obtain ⟨sound', same, taken⟩ := turn_of_mem sound mem
  have spec := endpointSpec_scrapeEndpoint sound' b clock t.endpoint t.world
  rw [taken]
  exact ⟨spec.sound, same.trans spec.same⟩

section Pass

variable {b : Backend δ} {clock : PassClock} {l : List Endpoint} {c c' : Collected}
  {x x' : Exporter} {w w' : World δ}

/-- An endpoint takes its turn with the share that it had before all turns. -/
theorem agree_of_mem (sound : x.Sound) (distinct : (l.map Endpoint.fingerprint).Nodup)
    {t : EndpointTurn δ} (mem : t ∈ endpointTurns b clock l x w) :
    Agree t.endpoint.fingerprint x w t.before t.world := by
  induction l generalizing x w with
  | nil => cases mem
  | cons e rest ih =>
    obtain ⟨absent, others⟩ := List.nodup_cons.mp distinct
    rcases endpointTurns_cons mem with rfl | later
    · exact .refl _ x w
    · have ne : t.endpoint.fingerprint ≠ e.fingerprint := by
        intro same
        exact absent (same ▸ List.mem_map_of_mem (endpoint_of_mem later))
      have spec := endpointSpec_scrapeEndpoint sound b clock e w
      exact (agree_scrapeEndpoint sound b clock e w ne).trans (ih spec.sound others later)

/-- The turns of other endpoints leave a share alone. -/
theorem agree_scrapeEndpoints {fingerprint : String} (sound : x.Sound)
    (absent : ∀ e ∈ l, fingerprint ≠ e.fingerprint)
    (h : scrapeEndpoints b clock l c x w = (.ok c', x', w')) :
    Agree fingerprint x w x' w' := by
  induction l generalizing c x w with
  | nil =>
    cases h
    exact .refl fingerprint _ _
  | cons e rest ih =>
    obtain ⟨first, others⟩ := List.forall_mem_cons.mp absent
    obtain ⟨c₁, -, later⟩ := followed_of_scrapeEndpoints h
    have spec := endpointSpec_scrapeEndpoint sound b clock e w
    exact (agree_scrapeEndpoint sound b clock e w first).trans (ih spec.sound others later)

/-- The turns after its own leave the share of an endpoint as its turn left it. -/
theorem agree_after_of_mem (sound : x.Sound) (distinct : (l.map Endpoint.fingerprint).Nodup)
    (h : scrapeEndpoints b clock l c x w = (.ok c', x', w')) {t : EndpointTurn δ}
    (mem : t ∈ endpointTurns b clock l x w) :
    Agree t.endpoint.fingerprint t.after t.worldAfter x' w' := by
  induction l generalizing c x w with
  | nil => cases mem
  | cons e rest ih =>
    obtain ⟨absent, others⟩ := List.nodup_cons.mp distinct
    obtain ⟨c₁, -, later⟩ := followed_of_scrapeEndpoints h
    have spec := endpointSpec_scrapeEndpoint sound b clock e w
    rcases endpointTurns_cons mem with rfl | mem
    -- by its fingerprint none of the others is the same
    · refine agree_scrapeEndpoints spec.sound ?_ later
      intro other mem' same
      exact absent (List.mem_map.mpr ⟨other, mem', same.symm⟩)
    · exact ih spec.sound others later mem

/-- An endpoint finds its share as it was before the pass, and the pass leaves it as its turn left
it. -/
theorem exists_turn {e : Endpoint} (sound : x.Sound) (mem : e ∈ l)
    (distinct : (l.map Endpoint.fingerprint).Nodup)
    (h : scrapeEndpoints b clock l c x w = (.ok c', x', w')) :
    ∃ y v, y.Sound ∧ y.turn b clock e v ∈ endpointTurns b clock l x w ∧
      Agree e.fingerprint x w y v ∧
      Agree e.fingerprint (y.turn b clock e v).after (y.turn b clock e v).worldAfter x' w' := by
  obtain ⟨t, taken, rfl⟩ : ∃ t ∈ endpointTurns b clock l x w, t.endpoint = e := by
    rw [← (whole_of_scrapeEndpoints h).endpoints] at mem
    exact List.mem_map.mp mem
  obtain ⟨sound', -, same⟩ := turn_of_mem sound taken
  refine ⟨t.before, t.world, sound', same ▸ taken, agree_of_mem sound distinct taken, ?_⟩
  rw [← same]
  exact agree_after_of_mem sound distinct h taken

end Pass

/-! ## Metrics by endpoint -/

/-- The metrics that carry the label of a server. -/
def slice (fingerprint : String) (metrics : List Metric) : List Metric :=
  metrics.filter fun m => m.descriptor.constLabels.get? serverLabel == some fingerprint

theorem Emits.labels {x : Exporter} {fingerprint : String} {m : Metric}
    (h : x.Emits fingerprint m) : m.descriptor.constLabels = x.labelsOf fingerprint := by
  cases h with
  | version own info => exact own
  | setting gauge =>
    obtain ⟨name, help, value, rfl⟩ := Setting.metric_eq_ok gauge
    rfl
  | column exported =>
    obtain ⟨namespaceName, n, v, column, -, exports⟩ := exported
    exact exports.fixedLabels

theorem Emits.server {x : Exporter} {fingerprint : String} {m : Metric}
    (h : x.Emits fingerprint m) :
    m.descriptor.constLabels.get? serverLabel = some fingerprint := by
  rw [h.labels, labelsOf, Dict.get?_insert, if_pos Std.ReflCmp.compare_self]

/-- The metrics of a turn come from its endpoint. -/
theorem emits_of_mem_metrics {b : Backend δ} {clock : PassClock} {l : List Endpoint}
    {x : Exporter} {w : World δ} (sound : x.Sound) {t : EndpointTurn δ}
    (mem : t ∈ endpointTurns b clock l x w) {m : Metric} (given : m ∈ t.metrics) :
    x.Emits t.endpoint.fingerprint m := by
  obtain ⟨sound', same, taken⟩ := turn_of_mem sound mem
  have spec := endpointSpec_scrapeEndpoint sound' b clock t.endpoint t.world
  have outcome : t.outcome = (t.before.scrapeEndpoint b clock t.endpoint t.world).1 :=
    congrArg EndpointTurn.outcome taken
  unfold EndpointTurn.metrics at given
  split at given
  case h_1 scrape ok => exact same.emits (spec.emits scrape (outcome.symm.trans ok) m given)
  case h_2 => cases given

theorem server_of_mem_metrics {b : Backend δ} {clock : PassClock} {l : List Endpoint}
    {x : Exporter} {w : World δ} (sound : x.Sound) {t : EndpointTurn δ}
    (mem : t ∈ endpointTurns b clock l x w) {m : Metric} (given : m ∈ t.metrics) :
    m.descriptor.constLabels.get? serverLabel = some t.endpoint.fingerprint :=
  (emits_of_mem_metrics sound mem given).server

/-- What a server gave in a pass is what its endpoint gave in its turn. -/
theorem slice_of_turns {turns : List (EndpointTurn δ)}
    (labelled : ∀ t ∈ turns, ∀ m ∈ t.metrics,
      m.descriptor.constLabels.get? serverLabel = some t.endpoint.fingerprint)
    (distinct : (turns.map (·.endpoint.fingerprint)).Nodup) {t : EndpointTurn δ}
    (mem : t ∈ turns) :
    slice t.endpoint.fingerprint (turns.flatMap EndpointTurn.metrics) = t.metrics := by
  have own : slice t.endpoint.fingerprint t.metrics = t.metrics := by
    apply List.filter_eq_self.mpr
    intro m given
    simpa using labelled t mem m given
  have others {l : List (EndpointTurn δ)} (sub : ∀ t' ∈ l, t' ∈ turns)
      (ne : ∀ t' ∈ l, t'.endpoint.fingerprint ≠ t.endpoint.fingerprint) :
      slice t.endpoint.fingerprint (l.flatMap EndpointTurn.metrics) = [] := by
    apply List.filter_eq_nil_iff.mpr
    intro m given
    obtain ⟨t', mem', given⟩ := List.mem_flatMap.mp given
    have label := labelled t' (sub t' mem') m given
    simpa [label] using ne t' mem'
  obtain ⟨done, after, rfl⟩ := List.append_of_mem mem
  rw [List.map_append, List.map_cons, List.nodup_append, List.nodup_cons] at distinct
  obtain ⟨-, ⟨later, -⟩, apart⟩ := distinct
  have before := others (l := done) (by simp +contextual) fun t' mem' =>
    apart _ (List.mem_map_of_mem mem') _ List.mem_cons_self
  have rest := others (l := after) (by simp +contextual) fun t' mem' same =>
    later (same ▸ List.mem_map_of_mem mem')
  unfold slice at own before rest ⊢
  rw [List.flatMap_append, List.flatMap_cons, List.filter_append, List.filter_append, before, own,
    rest]
  simp

end Exporter

end PgMetrics
