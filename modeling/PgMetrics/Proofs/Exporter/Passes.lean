import PgMetrics.Exporter.Basic
import PgMetrics.Proofs.Scrape.Settings
import PgMetrics.Proofs.Server.History
import PgMetrics.Proofs.Server.Registry

/-!
# What an exporter gives

Whatever the databases answer, every metric of a pass is the version of a server, the gauge of a
parameter, or the metric of a column on a version that the server had at some time. All of them
carry the labels of the endpoint that they come from.

## Main definitions

* `Exporter.Reachable` — the exporters that a configuration leads to.
* `Exporter.Emits` — the metrics that a pass may give for an endpoint.
-/

namespace PgMetrics

/-! ## The orders of the turns -/

section Order

variable {α : Type} [DecidableEq α] {limit : Nat}

theorem Completes.perm {l order : List α} (h : Completes limit l order) : order.Perm l := by
  induction order generalizing l with
  | nil =>
    obtain rfl : l = [] := h
    exact .nil
  | cons a rest ih =>
    obtain ⟨underWay, later⟩ := h
    have mem : a ∈ l := List.mem_of_mem_take underWay
    exact ((ih later).cons a).trans (List.perm_cons_erase mem).symm

theorem completes_self (room : 0 < limit) (l : List α) : Completes limit l l := by
  induction l with
  | nil => rfl
  | cons a rest ih =>
    refine ⟨?_, ?_⟩
    · rw [List.take_cons room]
      exact List.mem_cons_self
    · rwa [List.erase_cons_head]

end Order

/-! ## A server -/

/-- The metrics of the columns of a catalog, on any version. -/
def Catalog.Exported (c : Catalog) (constLabels : Dict String String) (m : Metric) : Prop :=
  ∃ namespaceName n v column, c.declarations.layout.get? namespaceName = some n ∧
    n.Exports v namespaceName c.stem constLabels column m

theorem Catalog.Fits.exported_of_mem {c : Catalog} {v : Version}
    {constLabels : Dict String String} {namespaceName : String} {metrics : List Metric}
    (h : c.Fits v constLabels namespaceName metrics) {m : Metric} (mem : m ∈ metrics) :
    c.Exported constLabels m := by
  obtain ⟨n, column, declared, exports, -, -⟩ := h.exported m mem
  exact ⟨namespaceName, n, v, column, declared, exports⟩

namespace Server

variable {δ : Type}

/-- The plan is one of the catalog, and what is kept was once read under such a plan. -/
structure Sound (c : Catalog) (constLabels : Dict String String) (s : Server) : Prop where
  labels : s.labels = constLabels
  planOf : c.PlanOf constLabels s.plan
  captures : ∀ namespaceName capture, s.cache.captures.get? namespaceName = some capture →
    ∀ m ∈ capture.metrics, c.Exported constLabels m

theorem sound_open (c : Catalog) (serial : Nat) (e : Endpoint)
    (constantLabels : Dict String String) :
    (Server.open serial e constantLabels).Sound c
      (constantLabels.insert serverLabel e.fingerprint) :=
  ⟨rfl, .inl rfl, nofun⟩

variable {b : Backend δ} {c : Catalog} {constLabels : Dict String String} {s : Server}

theorem Sound.role (h : s.Sound c constLabels) (master : Bool) :
    Sound c constLabels { s with master } :=
  ⟨h.labels, h.planOf, h.captures⟩

theorem Sound.passSpec (h : s.Sound c constLabels) (b : Backend δ) (i : Circumstances δ) :
    PassSpec c s (s.pass b c i).1 (s.pass b c i).2 :=
  passSpec_pass b (h.labels ▸ h.planOf) i

theorem Sound.pass (h : s.Sound c constLabels) (b : Backend δ) (i : Circumstances δ) :
    (s.pass b c i).2.Sound c constLabels := by
  have spec := h.passSpec b i
  refine ⟨spec.labels.trans h.labels, ?_, fun ns capture found m mem => ?_⟩
  · rw [spec.plan, ← h.labels]
    exact spec.planOf
  · rcases spec.captures ns capture found with ⟨batch, n, read, -, -, rfl⟩ | ⟨old, -⟩
    · obtain ⟨v, -, fits⟩ := spec.read ns batch read
      rw [h.labels] at fits
      exact fits.exported_of_mem mem
    · exact h.captures ns capture old m mem

/-- Every metric of a turn is the metric of a column. -/
theorem Sound.exported_of_turn (h : s.Sound c constLabels) {i : Circumstances δ} {ns : String}
    {turn : Turn} (taken : (ns, turn) ∈ (s.pass b c i).1.turns) {m : Metric}
    (mem : m ∈ turn.metrics) : c.Exported constLabels m := by
  have spec := h.passSpec b i
  cases turn with
  | passedOver => cases mem
  | replayed metrics =>
    obtain ⟨n, takenAt, -, -, found, -⟩ := spec.replayed ns metrics taken
    exact h.captures ns _ found m mem
  | read batch =>
    obtain ⟨v, -, fits⟩ := spec.read ns batch taken
    rw [h.labels] at fits
    exact fits.exported_of_mem mem
  | failed e => cases mem

theorem settings_pass (b : Backend δ) (c : Catalog) (i : Circumstances δ) (s : Server) :
    ∃ (s₁ : Server) (w : World δ), s₁.labels = s.labels ∧
      (s.pass b c i).1.settings = (s₁.scrapeSettings b i.options w).1 := by
  unfold Server.pass
  rcases refresh_cases b c { s with master := i.master } i.world with
    ⟨info, w, refreshed⟩ | ⟨e, w, refreshed⟩
  · rw [refreshed]
    refine ⟨_, w, ?_, rfl⟩
    rw [withVersion_eq]
  · rw [refreshed]
    exact ⟨{ s with master := i.master }, w, rfl, rfl⟩

/-- Every metric that a pass over a server gives. -/
theorem Sound.mem_report (h : s.Sound c constLabels) (i : Circumstances δ) {report : Report}
    (ok : (s.pass b c i).1.outcome = .ok report) {m : Metric} (mem : m ∈ report.metrics) :
    (∃ p : Setting, p.metric i.options.stem constLabels = .ok m) ∨ c.Exported constLabels m := by
  obtain ⟨⟨settings, asked, metrics⟩, -⟩ := (h.passSpec b i).report report ok
  rw [metrics] at mem
  rcases List.mem_append.mp mem with mem | mem
  · obtain ⟨s₁, w, labels, same⟩ := settings_pass b c i s
    rw [same] at asked
    obtain ⟨p, gauge⟩ := exists_setting_of_mem_scrapeSettings asked mem
    rw [labels, h.labels] at gauge
    exact .inl ⟨p, gauge⟩
  · obtain ⟨⟨ns, turn⟩, taken, mem⟩ := List.mem_flatMap.mp mem
    exact .inr (h.exported_of_turn taken mem)

end Server

namespace Exporter

variable {δ : Type}

/-- The labels that the metrics of an endpoint carry. -/
def labelsOf (x : Exporter) (fingerprint : String) : Dict String String :=
  x.registry.constantLabels.insert serverLabel fingerprint

/-- The metrics that a pass may give for an endpoint. -/
inductive Emits (x : Exporter) (fingerprint : String) : Metric → Prop
  | version {s : Server} (labels : s.labels = x.labelsOf fingerprint) (info : VersionInfo) :
      Emits x fingerprint (x.versionMetric s info)
  | setting {p : Setting} {m : Metric}
      (gauge : p.metric x.options.stem (x.labelsOf fingerprint) = .ok m) : Emits x fingerprint m
  | column {m : Metric} (exported : x.catalog.Exported (x.labelsOf fingerprint) m) :
      Emits x fingerprint m

/-- Every registered server is sound for the labels of its fingerprint. -/
def Sound (x : Exporter) : Prop :=
  x.registry.All fun fingerprint s => s.Sound x.catalog (x.labelsOf fingerprint)

/-- What a pass leaves alone. -/
structure SameSettings (x y : Exporter) : Prop where
  endpoints : y.endpoints = x.endpoints
  catalog : y.catalog = x.catalog
  options : y.options = x.options
  concurrency : y.concurrency = x.concurrency
  constantLabels : y.registry.constantLabels = x.registry.constantLabels

theorem SameSettings.refl (x : Exporter) : x.SameSettings x := ⟨rfl, rfl, rfl, rfl, rfl⟩

theorem SameSettings.trans {x y z : Exporter} (h : x.SameSettings y) (g : y.SameSettings z) :
    x.SameSettings z :=
  ⟨g.endpoints.trans h.endpoints, g.catalog.trans h.catalog, g.options.trans h.options,
    g.concurrency.trans h.concurrency, g.constantLabels.trans h.constantLabels⟩

theorem SameSettings.labelsOf {x y : Exporter} (h : x.SameSettings y) (fingerprint : String) :
    y.labelsOf fingerprint = x.labelsOf fingerprint :=
  congrArg (·.insert serverLabel fingerprint) h.constantLabels

theorem SameSettings.emits {x y : Exporter} (h : x.SameSettings y) {fingerprint : String}
    {m : Metric} (emits : y.Emits fingerprint m) : x.Emits fingerprint m := by
  have labels := h.labelsOf fingerprint
  cases emits with
  | version labels' info =>
    have same : y.versionMetric = x.versionMetric := by
      unfold versionMetric
      rw [h.catalog]
    rw [same]
    exact .version (labels'.trans labels) info
  | setting gauge =>
    rw [labels, h.options] at gauge
    exact .setting gauge
  | column exported =>
    rw [labels, h.catalog] at exported
    exact .column exported

theorem isKept_sound (c : Catalog) (constantLabels : Dict String String) :
    Registry.IsKept
      (fun fingerprint s => s.Sound c (constantLabels.insert serverLabel fingerprint))
      constantLabels where
  opened serial e := Server.sound_open c serial e constantLabels
  role _ _ master h := h.role master

/-! ## One endpoint -/

/-- The turn of an endpoint whose server was acquired is a pass over the server. -/
theorem scrapeEndpoint_of_acquire {b : Backend δ} (clock : PassClock) {x : Exporter}
    {e : Endpoint} {w w' : World δ} {s : Server} {registry : Registry}
    (h : x.registry.acquire b e w = (.ok s, registry, w')) :
    let r := s.pass b x.catalog ⟨w', s.master, x.options, clock.now e.fingerprint⟩
    (x.scrapeEndpoint b clock e w).2.1 =
        { x with registry := registry.put r.2, status := x.status.setUp e.fingerprint true } ∧
      (x.scrapeEndpoint b clock e w).1 =
        match r.1.outcome with
        | .error stop => .error stop
        | .ok report =>
          match r.1.refreshed with
          | .ok info =>
            let version := if s.master && x.defaultMetrics then [x.versionMetric s info] else []
            .ok ⟨version ++ report.metrics, report.hasErrors⟩
          | .error _ => .ok ⟨report.metrics, true⟩ := by
  unfold scrapeEndpoint refreshServer Server.pass Server.passOn
  rw [h]
  dsimp only
  rcases s.refresh_cases b x.catalog w' with ⟨info, w'', refreshed⟩ | ⟨error, w'', refreshed⟩
  · rw [refreshed, Server.withVersion_eq]
    dsimp only
    generalize Server.scrape b x.options (clock.now e.fingerprint) _ w'' = scraped
    obtain ⟨outcome, after, w₃⟩ := scraped
    cases outcome <;> exact ⟨rfl, rfl⟩
  · rw [refreshed]
    dsimp only
    generalize Server.scrape b x.options (clock.now e.fingerprint) _ w'' = scraped
    obtain ⟨outcome, after, w₃⟩ := scraped
    cases outcome <;> exact ⟨rfl, rfl⟩

theorem scrapeEndpoint_of_refusal {b : Backend δ} (clock : PassClock) {x : Exporter}
    {e : Endpoint} {w w' : World δ} {error : ConnectionError} {registry : Registry}
    (h : x.registry.acquire b e w = (.error error, registry, w')) :
    x.scrapeEndpoint b clock e w =
      (.ok ⟨[], true⟩, { x with registry, status := x.status.setUp e.fingerprint false }, w') := by
  unfold scrapeEndpoint
  rw [h]

/-- What the turn of an endpoint does to an exporter and what it gives. -/
structure EndpointSpec (x : Exporter) (e : Endpoint)
    (result : Except PassStop EndpointScrape × Exporter × World δ) : Prop where
  sound : result.2.1.Sound
  same : x.SameSettings result.2.1
  emits : ∀ scrape, result.1 = .ok scrape → ∀ m ∈ scrape.metrics, x.Emits e.fingerprint m

theorem endpointSpec_of_refusal {b : Backend δ} (clock : PassClock) {x : Exporter} {e : Endpoint}
    {w w' : World δ} {error : ConnectionError} {registry : Registry}
    (h : x.registry.acquire b e w = (.error error, registry, w'))
    (sound : Exporter.Sound { x with registry })
    (labels : registry.constantLabels = x.registry.constantLabels) :
    EndpointSpec x e (x.scrapeEndpoint b clock e w) := by
  rw [scrapeEndpoint_of_refusal clock h]
  refine ⟨sound, ⟨rfl, rfl, rfl, rfl, labels⟩, ?_⟩
  rintro _ ⟨⟩ m mem
  cases mem

theorem emits_of_report {b : Backend δ} {x : Exporter} {fingerprint : String} {s : Server}
    (sound : s.Sound x.catalog (x.labelsOf fingerprint)) {w : World δ} {now : Instant}
    {report : Report}
    (ok : (s.pass b x.catalog ⟨w, s.master, x.options, now⟩).1.outcome = .ok report)
    {m : Metric} (mem : m ∈ report.metrics) : x.Emits fingerprint m := by
  rcases sound.mem_report _ ok mem with ⟨p, gauge⟩ | exported
  · exact .setting gauge
  · exact .column exported

theorem endpointSpec_of_acquire {b : Backend δ} (clock : PassClock) {x : Exporter} {e : Endpoint}
    {w w' : World δ} {s : Server} {registry : Registry}
    (h : x.registry.acquire b e w = (.ok s, registry, w'))
    (all : Exporter.Sound { x with registry })
    (labels : registry.constantLabels = x.registry.constantLabels)
    (named : s.fingerprint = e.fingerprint)
    (sound : s.Sound x.catalog (x.labelsOf e.fingerprint)) :
    EndpointSpec x e (x.scrapeEndpoint b clock e w) := by
  obtain ⟨state, outcome⟩ := scrapeEndpoint_of_acquire clock h
  have after := sound.pass b ⟨w', s.master, x.options, clock.now e.fingerprint⟩
  have spec := sound.passSpec b ⟨w', s.master, x.options, clock.now e.fingerprint⟩
  refine ⟨?_, ?_, fun scrape ok m mem => ?_⟩
  · rw [state]
    refine Registry.All.put all ?_
    rw [spec.fingerprint, named]
    unfold labelsOf at after ⊢
    rwa [labels]
  · rw [state]
    exact ⟨rfl, rfl, rfl, rfl, labels⟩
  · rw [outcome] at ok
    split at ok
    case h_1 => cases ok
    case h_2 report given =>
      split at ok
      case h_1 info _ =>
        cases ok
        rcases List.mem_append.mp mem with mem | mem
        · split at mem
          · obtain rfl := List.mem_singleton.mp mem
            exact .version sound.labels info
          · cases mem
        · exact emits_of_report sound given mem
      case h_2 =>
        cases ok
        exact emits_of_report sound given mem

theorem endpointSpec_scrapeEndpoint {x : Exporter} (h : x.Sound) (b : Backend δ)
    (clock : PassClock) (e : Endpoint) (w : World δ) :
    EndpointSpec x e (x.scrapeEndpoint b clock e w) := by
  have kept := Registry.kept_acquire (isKept_sound x.catalog x.registry.constantLabels) h b e w
  cases acquired : x.registry.acquire b e w with
  | mk answer rest =>
    obtain ⟨registry, w'⟩ := rest
    rw [acquired] at kept
    obtain ⟨all, labels, server⟩ := kept
    have sound : Exporter.Sound { x with registry } := by
      unfold Exporter.Sound labelsOf
      rwa [labels]
    cases answer with
    | error error => exact endpointSpec_of_refusal clock acquired sound labels
    | ok s =>
      obtain ⟨named, sound'⟩ := server s rfl
      exact endpointSpec_of_acquire clock acquired sound labels named sound'

/-! ## A pass -/

/-- What a pass does to an exporter and what it gives. -/
structure CollectSpec (x : Exporter)
    (result : Except CollectStop (List Metric) × Exporter × World δ) : Prop where
  sound : result.2.1.Sound
  same : x.SameSettings result.2.1
  emits : ∀ metrics, result.1 = .ok metrics →
    ∀ m ∈ metrics, ∃ e ∈ x.endpoints, x.Emits e.fingerprint m

theorem scrapeEndpoints_spec {x : Exporter} (h : x.Sound) (b : Backend δ) (clock : PassClock)
    (endpoints : List Endpoint) (c : Collected) (w : World δ) :
    (scrapeEndpoints b clock endpoints c x w).2.1.Sound ∧
      x.SameSettings (scrapeEndpoints b clock endpoints c x w).2.1 ∧
      ∀ c', (scrapeEndpoints b clock endpoints c x w).1 = .ok c' → ∀ m ∈ c'.metrics,
        m ∈ c.metrics ∨ ∃ e ∈ endpoints, x.Emits e.fingerprint m := by
  induction endpoints generalizing c x w with
  | nil =>
    refine ⟨h, .refl x, ?_⟩
    rintro _ ⟨⟩ m mem
    exact .inl mem
  | cons e rest ih =>
    obtain ⟨sound, same, emits⟩ := endpointSpec_scrapeEndpoint h b clock e w
    unfold scrapeEndpoints
    generalize x.scrapeEndpoint b clock e w = result at sound same emits ⊢
    obtain ⟨answer, x', w'⟩ := result
    -- what the rest of the endpoints give is given in the same settings
    have others (c : Collected) : _ := ih sound c w'
    have later {m : Metric} (h : ∃ e' ∈ rest, x'.Emits e'.fingerprint m) :
        ∃ e' ∈ e :: rest, x.Emits e'.fingerprint m := by
      obtain ⟨e', mem, emits'⟩ := h
      exact ⟨e', List.mem_cons_of_mem _ mem, same.emits emits'⟩
    cases answer with
    | error stop =>
      cases stop with
      | abort a => exact ⟨sound, same, nofun⟩
      | settings error =>
        obtain ⟨sound', same', emits'⟩ := others (c.add (.error error))
        exact ⟨sound', same.trans same', fun c' ok m mem => (emits' c' ok m mem).imp id later⟩
    | ok scrape =>
      obtain ⟨sound', same', emits'⟩ := others (c.add (.ok scrape))
      refine ⟨sound', same.trans same', fun c' ok m mem => ?_⟩
      rcases emits' c' ok m mem with mem | given
      · rcases List.mem_append.mp mem with mem | mem
        · exact .inl mem
        · exact .inr ⟨e, List.mem_cons_self, emits scrape rfl m mem⟩
      · exact .inr (later given)

theorem collectSpec_collectIn {x : Exporter} (h : x.Sound) (b : Backend δ) (clock : PassClock)
    {order : List Endpoint} (sub : order ⊆ x.endpoints) (w : World δ) :
    CollectSpec x (x.collectIn b clock order w) := by
  unfold collectIn
  obtain ⟨sound, same, emits⟩ := scrapeEndpoints_spec (x := { x with status := x.status.beginPass })
    h b clock order ⟨[], false, none⟩ w
  dsimp only
  generalize scrapeEndpoints b clock order ⟨[], false, none⟩
    { x with status := x.status.beginPass } w = result at sound same emits ⊢
  obtain ⟨answer, x', w'⟩ := result
  have unchanged : x.SameSettings { x with status := x.status.beginPass } :=
    ⟨rfl, rfl, rfl, rfl, rfl⟩
  cases answer with
  | error a => exact ⟨sound, unchanged.trans same, nofun⟩
  | ok c =>
    obtain ⟨metrics, hadErrors, fault⟩ := c
    cases fault with
    | some e => exact ⟨sound, (unchanged.trans same).trans ⟨rfl, rfl, rfl, rfl, rfl⟩, nofun⟩
    | none =>
      refine ⟨sound, (unchanged.trans same).trans ⟨rfl, rfl, rfl, rfl, rfl⟩, ?_⟩
      rintro _ ⟨⟩ m mem
      rcases emits _ rfl m mem with absent | ⟨e, mem, given⟩
      · cases absent
      · exact ⟨e, sub mem, unchanged.emits given⟩

theorem collectSpec_collect {x : Exporter} (h : x.Sound) (b : Backend δ) (clock : PassClock)
    (w : World δ) : CollectSpec x (x.collect b clock w) :=
  collectSpec_collectIn h b clock (List.Subset.refl x.endpoints) w

/-! ## All exporters -/

/-- The exporters that a configuration leads to: passes, reading the status, and closing. The turns
of a pass may end in any order that the number of those under way admits. -/
inductive Reachable (b : Backend δ) (c : Config) (files : String → FileState) : Exporter → Prop
  | created {x : Exporter} (h : Exporter.new c files = .ok x) : Reachable b c files x
  | collected {x : Exporter} (h : Reachable b c files x) (clock : PassClock)
      {order : List Endpoint} (completes : Completes x.concurrency x.endpoints order)
      (w : World δ) : Reachable b c files (x.collectIn b clock order w).2.1
  | closed {x : Exporter} (h : Reachable b c files x) (w : World δ) :
      Reachable b c files (x.shutdown b w).1
  | askedUp {x : Exporter} (h : Reachable b c files x) (fingerprint : String) :
      Reachable b c files { x with status := (x.status.readUp fingerprint).2 }
  | askedLoadError {x : Exporter} (h : Reachable b c files x) (r : Revision) :
      Reachable b c files { x with status := (x.status.readLoadError r).2 }

/-- A new exporter has connected to nothing, and of the configuration it keeps what it needs. -/
theorem eq_of_new {c : Config} {files : String → FileState} {x : Exporter}
    (h : Exporter.new c files = .ok x) : ∃ catalog status, x = {
      endpoints := c.endpoints
      catalog
      options := ⟨c.exporter.metricPrefix, !c.exporter.disableSettingsMetrics⟩
      defaultMetrics := !c.exporter.disableDefaultMetrics
      concurrency := max 1 c.exporter.maxConcurrentScrapes.toNat
      registry := .empty c.pool.retryPolicy c.exporter.constantLabels
      status } := by
  unfold Exporter.new at h
  obtain ⟨status, -, h⟩ := bind_eq_ok.mp h
  dsimp only at h
  obtain ⟨catalog, -, h⟩ := bind_eq_ok.mp h
  cases h
  exact ⟨_, _, rfl⟩

theorem sound_of_new {c : Config} {files : String → FileState} {x : Exporter}
    (h : Exporter.new c files = .ok x) : x.Sound := by
  obtain ⟨catalog, status, rfl⟩ := eq_of_new h
  exact Registry.all_empty _ _

theorem sound_of_reachable {b : Backend δ} {c : Config} {files : String → FileState} {x : Exporter}
    (h : Reachable b c files x) : x.Sound := by
  induction h with
  | created h => exact sound_of_new h
  | collected h clock completes w ih =>
    exact (collectSpec_collectIn ih b clock completes.perm.subset w).sound
  | closed h w ih => exact Registry.all_closeAll b _ w
  | askedUp h fingerprint ih => exact ih
  | askedLoadError h r ih => exact ih

/-- What an exporter has from its configuration. -/
structure Configured (c : Config) (x : Exporter) : Prop where
  endpoints : x.endpoints = c.endpoints
  concurrency : x.concurrency = max 1 c.exporter.maxConcurrentScrapes.toNat
  constantLabels : x.registry.constantLabels = c.exporter.constantLabels

theorem Configured.of_same {c : Config} {x y : Exporter} (h : Configured c x)
    (same : x.SameSettings y) : Configured c y :=
  ⟨same.endpoints.trans h.endpoints, same.concurrency.trans h.concurrency,
    same.constantLabels.trans h.constantLabels⟩

/-- Whatever is done with an exporter, it keeps what it has from its configuration. -/
theorem configured_of_reachable {b : Backend δ} {c : Config} {files : String → FileState}
    {x : Exporter} (h : Reachable b c files x) : Configured c x := by
  induction h with
  | created h =>
    obtain ⟨catalog, status, rfl⟩ := eq_of_new h
    exact ⟨rfl, rfl, rfl⟩
  | collected h clock completes w ih =>
    have sub := completes.perm.subset
    exact ih.of_same (collectSpec_collectIn (sound_of_reachable h) b clock sub w).same
  | closed h w ih => exact ⟨ih.endpoints, ih.concurrency, ih.constantLabels⟩
  | askedUp h fingerprint ih => exact ⟨ih.endpoints, ih.concurrency, ih.constantLabels⟩
  | askedLoadError h r ih => exact ⟨ih.endpoints, ih.concurrency, ih.constantLabels⟩

theorem Reachable.collect {b : Backend δ} {c : Config} {files : String → FileState} {x : Exporter}
    (h : Reachable b c files x) (clock : PassClock) (w : World δ) :
    Reachable b c files (x.collect b clock w).2.1 := by
  have room : 0 < x.concurrency := by
    rw [(configured_of_reachable h).concurrency]
    omega
  exact h.collected clock (completes_self room x.endpoints) w

end Exporter

end PgMetrics
