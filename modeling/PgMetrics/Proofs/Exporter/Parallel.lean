import PgMetrics.Proofs.Exporter.Queries
import PgMetrics.Proofs.Exporter.Status
import PgMetrics.Proofs.Server.Pairing
import PgMetrics.Proofs.Server.Windows

/-!
# Exporters with different windows

Two exporters that differ in the windows of their namespaces are followed through a pass, on
databases that do not change. What the one replays the other reads. So they issue different queries,
but their servers are opened at the same time, and every turn of the one gives the same metrics as
that of the other.

## Main definitions

* `Exporter.withWindows` — the exporter with other windows.
* `Exporter.Steady` — exporters and worlds whose servers have faithful captures.
* `Exporter.Parallel` — exporters that differ in their windows, and in what came of them.
* `Exporter.SameButHidden` — what their turns have in common.
-/

namespace PgMetrics

variable {δ : Type}

/-- The pass over the server of a turn replays a batch without its errors. -/
def EndpointTurn.Hides (b : Backend δ) (clock : PassClock) (answers : String → Answers)
    (t : EndpointTurn δ) : Prop :=
  ∃ r, t.record? b clock = some r ∧ r.Hides (answers t.endpoint.fingerprint)

namespace Exporter

/-- The exporter with the given window for each namespace. -/
def withWindows (x : Exporter) (windows : String → UInt64) : Exporter :=
  { x with catalog := x.catalog.withWindows windows }

/-! ## One run -/

/-- The databases of the endpoints always give the same answers, and the captures of the servers are
what the answers give. -/
structure Steady (b : Backend δ) (answers : String → Answers) (x : Exporter) (w : World δ) :
    Prop where
  sound : x.Sound
  settled : x.registry.All fun fingerprint s => s.Settled x.catalog (answers fingerprint)
  worlds : ∀ e ∈ x.endpoints, w.Steady b e.fingerprint (answers e.fingerprint)

/-- The pass over a new server of an endpoint, by its answers. -/
def freshPass (answers : String → Answers) (clock : PassClock) (x : Exporter) (e : Endpoint) :
    PassRecord :=
  (Server.open 0 e x.registry.constantLabels).freshPass (answers e.fingerprint) x.catalog x.options
    (clock.now e.fingerprint)

/-- The version of a server as a metric, where it is wanted. -/
def versionMetrics (x : Exporter) (s : Server) : Except QueryError VersionInfo → List Metric
  | .ok info => if s.master && x.defaultMetrics then [x.versionMetric s info] else []
  | .error _ => []

/-- What an endpoint gives that is reached. -/
def freshMetrics (answers : String → Answers) (clock : PassClock) (x : Exporter) (e : Endpoint) :
    Except PassStop (List Metric) :=
  let fresh := x.freshPass answers clock e
  let version := x.versionMetrics (.open 0 e x.registry.constantLabels) fresh.refreshed
  (fresh.outcome.map Report.metrics).map (version ++ ·)

section One

variable {b : Backend δ} {answers : String → Answers} {x : Exporter} {e : Endpoint}
  {v w : World δ}

/-- A server that is acquired for an endpoint. -/
structure Acquired (b : Backend δ) (answers : String → Answers) (x : Exporter) (e : Endpoint)
    (s : Server) (registry : Registry) (w : World δ) : Prop where
  fingerprint : s.fingerprint = e.fingerprint
  labels : s.labels = x.labelsOf e.fingerprint
  master : s.master = e.master
  settled : s.Settled x.catalog (answers e.fingerprint)
  others : registry.All fun fingerprint s => s.Settled x.catalog (answers fingerprint)
  world : w.Steady b e.fingerprint (answers e.fingerprint)

theorem isKept_settled (c : Catalog) (answers : String → Answers)
    (constantLabels : Dict String String) :
    Registry.IsKept (fun fingerprint s => s.Settled c (answers fingerprint)) constantLabels where
  opened serial e := Server.settled_open c (answers e.fingerprint) serial e constantLabels
  role _ _ master h := h.role master

theorem Steady.acquired (h : x.Steady b answers v) (mem : e ∈ x.endpoints) {s : Server}
    {registry : Registry} (acquired : x.registry.acquire b e v = (.ok s, registry, w)) :
    Acquired b answers x e s registry w := by
  have master := Registry.master_of_acquire (congrArg Prod.fst acquired)
  obtain ⟨world, -⟩ := Registry.steady_acquire (h.sound.named e.fingerprint) (h.worlds e mem)
  obtain ⟨-, -, server⟩ :=
    Registry.kept_acquire (isKept_sound x.catalog x.registry.constantLabels) h.sound b e v
  obtain ⟨others, -, server'⟩ := Registry.kept_acquire
    (isKept_settled x.catalog answers x.registry.constantLabels) h.settled b e v
  rw [acquired] at world server others server'
  obtain ⟨named, sound⟩ := server s rfl
  obtain ⟨-, settled⟩ := server' s rfl
  exact ⟨named, sound.labels, master, settled, others, world⟩

/-- The pass over a server that was acquired stands for the one without captures. -/
theorem Acquired.pass {s : Server} {registry : Registry} (h : Acquired b answers x e s registry w)
    (clock : PassClock) :
    let r := s.pass b x.catalog ⟨w, s.master, x.options, clock.now e.fingerprint⟩
    r.1.StandsFor (x.freshPass answers clock e) ∧
      r.2.Settled x.catalog (answers e.fingerprint) := by
  intro r
  have steady : w.Steady b s.fingerprint (answers e.fingerprint) := h.fingerprint ▸ h.world
  obtain ⟨stands, settled⟩ :=
    h.settled.pass ⟨w, s.master, x.options, clock.now e.fingerprint⟩ steady
  refine ⟨?_, settled⟩
  have fresh : s.freshPass (answers e.fingerprint) x.catalog x.options (clock.now e.fingerprint) =
      x.freshPass answers clock e :=
    Server.freshPass_congr h.fingerprint h.labels h.master _ _ _
  rw [← fresh]
  exact stands

/-- What came of a turn on a database that does not change. -/
inductive FreshTurn (b : Backend δ) (clock : PassClock) (answers : String → Answers) (x : Exporter)
    (e : Endpoint) (t : EndpointTurn δ) : Prop
  | refused (unreached : t.reached b = false) (outcome : t.outcome = .ok ⟨[], true⟩)
  | scraped (reached : t.reached b = true)
      (troubled : t.Troubled b clock ∨ t.Hides b clock answers ↔
        (x.freshPass answers clock e).Troubled)
      (outcome : t.outcome.map EndpointScrape.metrics = x.freshMetrics answers clock e)

theorem Steady.freshTurn (h : x.Steady b answers v) (mem : e ∈ x.endpoints) (clock : PassClock) :
    FreshTurn b clock answers x e (x.turn b clock e v) := by
  rcases acquired : x.registry.acquire b e v with ⟨answer, registry, w⟩
  have reached := reached_turn b clock x e v acquired
  cases answer with
  | error error =>
    exact .refused reached (congrArg Prod.fst (scrapeEndpoint_of_refusal clock acquired))
  | ok s =>
    have found := h.acquired mem acquired
    obtain ⟨stands, -⟩ := found.pass clock
    have record := record?_turn_of_acquire b clock x e v acquired
    have outcome : (x.turn b clock e v).outcome = _ := (scrapeEndpoint_of_acquire clock acquired).2
    have named : (x.turn b clock e v).endpoint = e := rfl
    dsimp only at stands outcome
    generalize (s.pass b x.catalog _).1 = r at stands record outcome
    generalize x.turn b clock e v = t at *
    have hides : t.Hides b clock answers ↔ r.Hides (answers e.fingerprint) := by
      unfold EndpointTurn.Hides
      rw [record, named]
      simp
    -- the version is exported with the labels and for the role of the endpoint
    have version : x.versionMetrics (.open 0 e x.registry.constantLabels) = x.versionMetrics s := by
      funext told
      unfold versionMetrics versionMetric
      rw [found.labels, found.master]
      rfl
    refine .scraped reached ?_ ?_
    · rw [EndpointTurn.troubled_iff_of_record reached record, hides]
      exact Server.troubled_or_hides_iff stands
    · unfold freshMetrics
      dsimp only
      rw [outcome, version, ← stands.outcome, ← stands.refreshed]
      cases r.outcome with
      | error stop => rfl
      | ok report => cases r.refreshed <;> rfl

theorem Steady.turn (h : x.Steady b answers v) (mem : e ∈ x.endpoints) (clock : PassClock) :
    (x.turn b clock e v).after.Steady b answers (x.turn b clock e v).worldAfter := by
  obtain ⟨sound, same, -⟩ := endpointSpec_scrapeEndpoint h.sound b clock e v
  have frame {fingerprint : String} (ne : fingerprint ≠ e.fingerprint) :=
    (agree_scrapeEndpoint h.sound b clock e v ne).registry.worlds
  have own : (x.scrapeEndpoint b clock e v).2.2.Steady b e.fingerprint (answers e.fingerprint) ∧
      (x.scrapeEndpoint b clock e v).2.1.registry.All fun fingerprint s =>
        s.Settled x.catalog (answers fingerprint) := by
    rcases acquired : x.registry.acquire b e v with ⟨answer, registry, w⟩
    cases answer with
    | error error =>
      obtain ⟨world, -⟩ := Registry.steady_acquire (h.sound.named e.fingerprint) (h.worlds e mem)
      obtain ⟨others, -, -⟩ := Registry.kept_acquire
        (isKept_settled x.catalog answers x.registry.constantLabels) h.settled b e v
      rw [acquired] at world others
      rw [scrapeEndpoint_of_refusal clock acquired]
      exact ⟨world, others⟩
    | ok s =>
      have found := h.acquired mem acquired
      obtain ⟨-, settled⟩ := found.pass clock
      rw [(world_scrapeEndpoint clock acquired).1, (scrapeEndpoint_of_acquire clock acquired).1]
      constructor
      · have world := found.world
        rw [← found.fingerprint] at world ⊢
        exact Server.steady_scrape_refresh world x.catalog x.options _
      · refine found.others.put ?_
        rwa [Server.fingerprint_pass, found.fingerprint]
  refine ⟨sound, ?_, ?_⟩
  · rw [show (x.turn b clock e v).after.catalog = x.catalog from same.catalog]
    exact own.2
  · intro e' mem'
    by_cases name : e'.fingerprint = e.fingerprint
    · rw [name]
      exact own.1
    · exact (h.worlds e' (same.endpoints ▸ mem')).of_sameFor (frame name)

end One

/-! ## Two runs -/

/-- Two runs with different windows: both are steady, their exporters differ in nothing but the
windows and what the runs made of them, and their servers are opened at the same time. -/
structure Parallel (b : Backend δ) (answers : String → Answers) (windows : String → UInt64)
    (x : Exporter) (v : World δ) (y : Exporter) (w : World δ) : Prop where
  left : x.Steady b answers v
  right : y.Steady b answers w
  endpoints : y.endpoints = x.endpoints
  catalog : y.catalog = x.catalog.withWindows windows
  options : y.options = x.options
  defaultMetrics : y.defaultMetrics = x.defaultMetrics
  policy : y.registry.policy = x.registry.policy
  constantLabels : y.registry.constantLabels = x.registry.constantLabels
  paired : ∀ e ∈ x.endpoints, Registry.Paired e.fingerprint x.registry v y.registry w

/-- Turns that give the same metrics, and in which the same went wrong but for what is hidden. -/
structure SameButHidden (b : Backend δ) (clock : PassClock) (answers : String → Answers)
    (t u : EndpointTurn δ) : Prop where
  metrics : t.outcome.map EndpointScrape.metrics = u.outcome.map EndpointScrape.metrics
  troubled : t.Troubled b clock ∨ t.Hides b clock answers ↔
    u.Troubled b clock ∨ u.Hides b clock answers

section Two

variable {b : Backend δ} {answers : String → Answers} {windows : String → UInt64}
  {x y : Exporter} {e : Endpoint} {v w : World δ}

theorem Parallel.freshPass (h : Parallel b answers windows x v y w) (clock : PassClock)
    (e : Endpoint) :
    y.freshPass answers clock e =
      { x.freshPass answers clock e with plan := (y.freshPass answers clock e).plan } := by
  unfold Exporter.freshPass
  rw [h.catalog, h.options, h.constantLabels, Server.freshPass_withWindows]

theorem Parallel.freshMetrics (h : Parallel b answers windows x v y w) (clock : PassClock)
    (e : Endpoint) : y.freshMetrics answers clock e = x.freshMetrics answers clock e := by
  unfold Exporter.freshMetrics
  rw [h.freshPass]
  dsimp only
  have version : y.versionMetrics (.open 0 e y.registry.constantLabels) =
      x.versionMetrics (.open 0 e x.registry.constantLabels) := by
    funext told
    unfold versionMetrics versionMetric
    rw [h.constantLabels, h.catalog, h.defaultMetrics]
    rfl
  rw [version]

/-- Parallel runs acquire the server of an endpoint at the same time. -/
theorem Parallel.acquire (h : Parallel b answers windows x v y w) (mem : e ∈ x.endpoints) :
    (x.registry.acquire b e v).1.isOk = (y.registry.acquire b e w).1.isOk ∧
      Registry.Paired e.fingerprint (x.registry.acquire b e v).2.1 (x.registry.acquire b e v).2.2
        (y.registry.acquire b e w).2.1 (y.registry.acquire b e w).2.2 :=
  (h.paired e mem).acquire h.policy.symm h.constantLabels.symm
    (h.left.sound.named e.fingerprint) (h.right.sound.named e.fingerprint)
    (h.left.worlds e mem) (h.right.worlds e (h.endpoints ▸ mem))

theorem Parallel.sameButHidden (h : Parallel b answers windows x v y w) (mem : e ∈ x.endpoints)
    (clock : PassClock) :
    SameButHidden b clock answers (x.turn b clock e v) (y.turn b clock e w) := by
  have mem' : e ∈ y.endpoints := h.endpoints ▸ mem
  have reached : (x.turn b clock e v).reached b = (y.turn b clock e w).reached b :=
    (h.acquire mem).1
  have fresh : (y.freshPass answers clock e).Troubled ↔ (x.freshPass answers clock e).Troubled := by
    unfold Exporter.freshPass
    rw [h.catalog, h.options, h.constantLabels]
    exact Server.troubled_freshPass_withWindows windows _ _ _
  have first := h.left.freshTurn mem clock
  have second := h.right.freshTurn mem' clock
  generalize x.turn b clock e v = t at reached first ⊢
  generalize y.turn b clock e w = u at reached second ⊢
  cases first with
  | refused unreached outcome =>
    cases second with
    | refused unreached' outcome' =>
      refine ⟨by rw [outcome, outcome'], ?_⟩
      exact ⟨fun _ => .inl (.unreachable unreached'), fun _ => .inl (.unreachable unreached)⟩
    | scraped reached' =>
      rw [unreached, reached'] at reached
      cases reached
  | scraped reached₁ troubled outcome =>
    cases second with
    | refused unreached' =>
      rw [reached₁, unreached'] at reached
      cases reached
    | scraped reached₂ troubled' outcome' =>
      refine ⟨?_, troubled.trans (fresh.symm.trans troubled'.symm)⟩
      rw [outcome, outcome', h.freshMetrics]

/-- A turn changes neither the retry policy nor whether the version is exported. -/
theorem policy_turn (sound : x.Sound) (clock : PassClock) (e : Endpoint) (v : World δ) :
    (x.turn b clock e v).after.registry.policy = x.registry.policy ∧
      (x.turn b clock e v).after.defaultMetrics = x.defaultMetrics := by
  have policy := (Registry.served_acquire b (sound.named e.fingerprint) v).1.policy
  unfold Exporter.turn
  rcases acquired : x.registry.acquire b e v with ⟨answer, registry, w⟩
  rw [acquired] at policy
  cases answer with
  | error error =>
    rw [scrapeEndpoint_of_refusal clock acquired]
    exact ⟨policy, rfl⟩
  | ok s =>
    dsimp only
    rw [(scrapeEndpoint_of_acquire clock acquired).1]
    exact ⟨policy, rfl⟩

/-- The turn of an acquired server leaves it registered. -/
theorem isSome_turn_of_acquire (sound : x.Sound) (clock : PassClock) {s : Server}
    {registry : Registry} (acquired : x.registry.acquire b e v = (.ok s, registry, w)) :
    ((x.turn b clock e v).after.registry.servers.get? e.fingerprint).isSome := by
  obtain ⟨-, -, server⟩ :=
    Registry.kept_acquire (isKept_sound x.catalog x.registry.constantLabels) sound b e v
  rw [acquired] at server
  obtain ⟨named, -⟩ := server s rfl
  unfold Exporter.turn
  dsimp only
  rw [(scrapeEndpoint_of_acquire clock acquired).1, Registry.get?_put, Server.fingerprint_pass,
    named, if_pos rfl]
  rfl

theorem Parallel.paired_turn (h : Parallel b answers windows x v y w) (mem : e ∈ x.endpoints)
    (clock : PassClock) :
    Registry.Paired e.fingerprint (x.turn b clock e v).after.registry
      (x.turn b clock e v).worldAfter (y.turn b clock e w).after.registry
      (y.turn b clock e w).worldAfter := by
  obtain ⟨same, paired⟩ := h.acquire mem
  rcases first : x.registry.acquire b e v with ⟨answer, registry, v'⟩
  rcases second : y.registry.acquire b e w with ⟨answer', registry', w'⟩
  rw [first, second] at same paired
  cases answer with
  | error error =>
    cases answer' with
    | error error' =>
      unfold Exporter.turn
      rw [scrapeEndpoint_of_refusal clock first, scrapeEndpoint_of_refusal clock second]
      exact paired
    | ok t => cases same
  | ok s =>
    cases answer' with
    | error error' => cases same
    | ok t =>
      exact .registered (isSome_turn_of_acquire h.left.sound clock first)
        (isSome_turn_of_acquire h.right.sound clock second)

theorem Parallel.turn (h : Parallel b answers windows x v y w) (mem : e ∈ x.endpoints)
    (clock : PassClock) :
    Parallel b answers windows (x.turn b clock e v).after (x.turn b clock e v).worldAfter
      (y.turn b clock e w).after (y.turn b clock e w).worldAfter := by
  obtain ⟨-, same, -⟩ := endpointSpec_scrapeEndpoint h.left.sound b clock e v
  obtain ⟨-, same', -⟩ := endpointSpec_scrapeEndpoint h.right.sound b clock e w
  obtain ⟨policy, defaults⟩ := policy_turn (b := b) h.left.sound clock e v
  obtain ⟨policy', defaults'⟩ := policy_turn (b := b) h.right.sound clock e w
  exact {
    left := h.left.turn mem clock
    right := h.right.turn (h.endpoints ▸ mem) clock
    endpoints := same'.endpoints.trans (h.endpoints.trans same.endpoints.symm)
    catalog := by
      rw [show (y.turn b clock e w).after.catalog = y.catalog from same'.catalog,
        show (x.turn b clock e v).after.catalog = x.catalog from same.catalog]
      exact h.catalog
    options := same'.options.trans (h.options.trans same.options.symm)
    defaultMetrics := defaults'.trans (h.defaultMetrics.trans defaults.symm)
    policy := policy'.trans (h.policy.trans policy.symm)
    constantLabels :=
      same'.constantLabels.trans (h.constantLabels.trans same.constantLabels.symm)
    paired := fun e' mem' => by
      by_cases name : e'.fingerprint = e.fingerprint
      · rw [name]
        exact h.paired_turn mem clock
      · exact (h.paired e' (same.endpoints ▸ mem')).frame
          (agree_scrapeEndpoint h.left.sound b clock e v name).registry
          (agree_scrapeEndpoint h.right.sound b clock e w name).registry }

end Two

/-! ## Two passes -/

/-- What was collected, without the flag. -/
def Collected.given (c : Collected) : List Metric × Option SettingsError := (c.metrics, c.fault)

theorem given_add_error {c c' : Collected} (same : c.given = c'.given) (e : SettingsError) :
    (c.add (.error e)).given = (c'.add (.error e)).given := by
  obtain ⟨metrics, fault⟩ := Prod.mk.inj same
  exact Prod.ext metrics (congrArg (Option.or · (some e)) fault)

theorem given_add_ok {c c' : Collected} (same : c.given = c'.given) {s s' : EndpointScrape}
    (metrics : s.metrics = s'.metrics) : (c.add (.ok s)).given = (c'.add (.ok s')).given := by
  obtain ⟨before, fault⟩ := Prod.mk.inj same
  exact Prod.ext (congrArg₂ (· ++ ·) before metrics) fault

section Two

variable {b : Backend δ} {answers : String → Answers} {windows : String → UInt64}
  {x y : Exporter} {v w : World δ}

/-- The turns of a pass, step by step, leave parallel runs parallel. -/
theorem Parallel.scrapeEndpoints (h : Parallel b answers windows x v y w) (clock : PassClock)
    {l l' : List Endpoint} (list : l' = l) (sub : ∀ e ∈ l, e ∈ x.endpoints) {c d : Collected}
    (same : c.given = d.given) :
    let p := Exporter.scrapeEndpoints b clock l c x v
    let q := Exporter.scrapeEndpoints b clock l' d y w
    p.1.map Collected.given = q.1.map Collected.given ∧
      Parallel b answers windows p.2.1 p.2.2 q.2.1 q.2.2 ∧
      List.Forall₂ (SameButHidden b clock answers) (endpointTurns b clock l x v)
        (endpointTurns b clock l' y w) := by
  subst list
  induction l' generalizing c d x v y w with
  | nil => exact ⟨congrArg Except.ok same, h, .nil⟩
  | cons e rest ih =>
    obtain ⟨mem, others⟩ := List.forall_mem_cons.mp sub
    have turn := h.sameButHidden mem clock
    have after := h.turn mem clock
    obtain ⟨-, kept, -⟩ := endpointSpec_scrapeEndpoint h.left.sound b clock e v
    rcases first : x.scrapeEndpoint b clock e v with ⟨outcome, x', v'⟩
    rcases second : y.scrapeEndpoint b clock e w with ⟨outcome', y', w'⟩
    have taken : x.turn b clock e v = ⟨e, x, v, outcome, x', v'⟩ := by
      unfold Exporter.turn
      rw [first]
    have taken' : y.turn b clock e w = ⟨e, y, w, outcome', y', w'⟩ := by
      unfold Exporter.turn
      rw [second]
    have endpoints : x'.endpoints = x.endpoints := by
      rw [first] at kept
      exact kept.endpoints
    replace others : ∀ e ∈ rest, e ∈ x'.endpoints := endpoints ▸ others
    unfold Exporter.scrapeEndpoints endpointTurns
    dsimp only
    rw [taken, taken'] at turn after ⊢
    rw [first, second]
    have metrics := turn.metrics
    dsimp only at metrics after ⊢
    -- the outcomes are of one kind, so the runs go on alike
    cases outcome with
    | error stop =>
      obtain rfl : outcome' = .error stop := by
        cases outcome' with
        | error stop' => exact congrArg Except.error (Except.error.inj metrics.symm)
        | ok scrape => cases metrics
      cases stop with
      | abort a => exact ⟨rfl, after, .cons turn .nil⟩
      | settings error =>
        obtain ⟨given, later, turns⟩ := ih after (given_add_error same error) others
        exact ⟨given, later, .cons turn turns⟩
    | ok scrape =>
      cases outcome' with
      | error stop => cases metrics
      | ok scrape' =>
        obtain ⟨given, later, turns⟩ := ih after (given_add_ok same (Except.ok.inj metrics)) others
        exact ⟨given, later, .cons turn turns⟩

theorem Parallel.setStatus (h : Parallel b answers windows x v y w) (s s' : Status) :
    Parallel b answers windows { x with status := s } v { y with status := s' } w :=
  { h with
    left := ⟨h.left.sound, h.left.settled, h.left.worlds⟩
    right := ⟨h.right.sound, h.right.settled, h.right.worlds⟩ }

theorem Parallel.collect (h : Parallel b answers windows x v y w) (clock : PassClock) :
    (x.collect b clock v).1 = (y.collect b clock w).1 ∧
      Parallel b answers windows (x.collect b clock v).2.1 (x.collect b clock v).2.2
        (y.collect b clock w).2.1 (y.collect b clock w).2.2 ∧
      List.Forall₂ (SameButHidden b clock answers) (x.turnsOf b clock v)
        (y.turnsOf b clock w) := by
  have started := h.setStatus x.status.beginPass y.status.beginPass
  obtain ⟨given, after, turns⟩ := started.scrapeEndpoints clock h.endpoints (fun _ mem => mem)
    (c := ⟨[], false, none⟩) (d := ⟨[], false, none⟩) rfl
  unfold Exporter.collect Exporter.collectIn turnsOf turnsIn
  dsimp only at given after turns ⊢
  generalize Exporter.scrapeEndpoints b clock x.endpoints ⟨[], false, none⟩
    { x with status := x.status.beginPass } v = p at given after ⊢
  generalize Exporter.scrapeEndpoints b clock y.endpoints ⟨[], false, none⟩
    { y with status := y.status.beginPass } w = q at given after ⊢
  obtain ⟨answer, x', v'⟩ := p
  obtain ⟨answer', y', w'⟩ := q
  dsimp only at given after ⊢
  cases answer with
  | error a =>
    cases answer' with
    | error a' =>
      obtain rfl : a = a' := Except.error.inj given
      exact ⟨rfl, after, turns⟩
    | ok c' => cases given
  | ok c =>
    cases answer' with
    | error a' => cases given
    | ok c' =>
      obtain ⟨metrics, fault⟩ := Prod.mk.inj (Except.ok.inj given)
      dsimp only
      rw [← metrics, ← fault]
      have ended := after.setStatus (x'.status.endPass c.hadErrors clock.duration)
        (y'.status.endPass c'.hadErrors clock.duration)
      cases c.fault <;> exact ⟨rfl, ended, turns⟩

end Two

end Exporter

end PgMetrics
