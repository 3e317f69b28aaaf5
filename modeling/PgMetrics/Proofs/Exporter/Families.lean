import Mathlib.Data.List.Infix
import PgMetrics.Proofs.Exporter.Rendering
import PgMetrics.Proofs.Exporter.Startup
import PgMetrics.Proofs.Exporter.Status

/-!
# Names of the families

The families of a pass have distinct names, and so have those of the status. They are put together
in the order of their names, but nothing keeps them apart: a namespace of the user's file can be
named so that one of its columns is exported under a name of the status. The name then has two
families.

## Main definitions

* `Status.ownNames` — the names of the status that a column can have.
* `Exporter.Settled` — exporters with the catalog and the status of their file.
* `Exporter.Source` — what the metrics of a pass come from.
* `Exporter.TakesOwnName` — the metrics that have a name of the status.
-/

namespace PgMetrics

/-! ## Names of the status -/

namespace Status

/-- The names of the metrics about passes. -/
def passNames : List String :=
  ["exporter_last_scrape_error", durationName, "exporter_scrapes_total"]

/-- The names that the status gives besides that of the gauges of the servers. -/
def ownNames : List String := passNames ++ [loadErrorName]

variable {s : Status}

theorem map_name_metrics :
    s.metrics.map Metric.name =
      s.up.toList.map (fun _ => stemmed s.stem "up") ++ passNames.map (stemmed s.stem) ++
        s.loadError.toList.map (fun _ => stemmed s.stem loadErrorName) := by
  unfold metrics
  rw [List.map_append, List.map_append, List.map_map, List.map_map]
  rfl

theorem name_of_mem_metrics {m : Metric} (h : m ∈ s.metrics) :
    m.name = stemmed s.stem "up" ∨ ∃ name ∈ ownNames, m.name = stemmed s.stem name := by
  have named := List.mem_map_of_mem (f := Metric.name) h
  rw [map_name_metrics] at named
  simp only [List.mem_append, List.mem_map] at named
  rcases named with (⟨-, -, same⟩ | ⟨name, own, same⟩) | ⟨-, -, same⟩
  · exact .inl same.symm
  · exact .inr ⟨name, List.mem_append_left _ own, same.symm⟩
  · exact .inr ⟨loadErrorName, List.mem_append_right _ (List.mem_singleton_self _), same.symm⟩

/-- Where a file was noted, all of these names are given. -/
theorem exists_metric_of_mem_ownNames {name : String} (h : name ∈ ownNames)
    (noted : s.loadError.toList ≠ []) : ∃ m ∈ s.metrics, m.name = stemmed s.stem name := by
  rw [← List.mem_map, map_name_metrics]
  simp only [List.mem_append, List.mem_map]
  rcases List.mem_append.mp h with own | own
  · exact .inl (.inr ⟨name, own, rfl⟩)
  · obtain rfl := List.mem_singleton.mp own
    obtain ⟨e, mem⟩ := List.exists_mem_of_ne_nil _ noted
    exact .inr ⟨e, mem, rfl⟩

/-! ## What happens to the status -/

/-- Later on the status has the same stem, and what was noted of a file is not forgotten. -/
structure Continues (s s' : Status) : Prop where
  stem : s'.stem = s.stem
  noted : s.loadError.toList ≠ [] → s'.loadError.toList ≠ []

theorem Continues.refl (s : Status) : s.Continues s := ⟨rfl, id⟩

theorem Continues.trans {s s' s'' : Status} (h : s.Continues s') (g : s'.Continues s'') :
    s.Continues s'' :=
  ⟨g.stem.trans h.stem, g.noted ∘ h.noted⟩

theorem continues_setUp (s : Status) (fingerprint : String) (reached : Bool) :
    s.Continues (s.setUp fingerprint reached) :=
  ⟨rfl, id⟩

theorem continues_readUp (s : Status) (fingerprint : String) :
    s.Continues (s.readUp fingerprint).2 := by
  unfold readUp
  split
  · exact .refl s
  · exact continues_setUp s fingerprint false

theorem continues_readLoadError (s : Status) (r : Revision) :
    s.Continues (s.readLoadError r).2 := by
  unfold readLoadError
  split
  · exact .refl s
  · exact ⟨rfl, fun _ => Dict.toList_insert_ne_nil _ r false⟩

end Status

namespace Exporter

variable {δ : Type}

theorem continues_scrapeEndpoints (b : Backend δ) (clock : PassClock) (l : List Endpoint)
    (c : Collected) (x : Exporter) (w : World δ) :
    x.status.Continues (scrapeEndpoints b clock l c x w).2.1.status := by
  induction l generalizing c x w with
  | nil => exact .refl x.status
  | cons e rest ih =>
    have turn : x.status.Continues (x.scrapeEndpoint b clock e w).2.1.status := by
      have after : (x.scrapeEndpoint b clock e w).2.1.status = _ := status_turn b clock x e w
      rw [after]
      exact Status.continues_setUp ..
    unfold scrapeEndpoints
    generalize x.scrapeEndpoint b clock e w = result at turn ⊢
    obtain ⟨answer, x', w'⟩ := result
    cases answer with
    | error stop =>
      cases stop with
      | abort a => exact turn
      | settings error => exact turn.trans (ih _ x' w')
    | ok scrape => exact turn.trans (ih _ x' w')

theorem continues_collectIn (b : Backend δ) (clock : PassClock) (order : List Endpoint)
    (x : Exporter) (w : World δ) :
    x.status.Continues (x.collectIn b clock order w).2.1.status := by
  have pass := continues_scrapeEndpoints b clock order ⟨[], false, none⟩
    { x with status := x.status.beginPass } w
  have begun : x.status.Continues x.status.beginPass := ⟨rfl, id⟩
  unfold collectIn
  dsimp only
  generalize scrapeEndpoints b clock order ⟨[], false, none⟩
    { x with status := x.status.beginPass } w = result at pass ⊢
  obtain ⟨answer, x', w'⟩ := result
  cases answer with
  | error a => exact begun.trans pass
  | ok c =>
    have ended : x'.status.Continues (x'.status.endPass c.hadErrors clock.duration) := ⟨rfl, id⟩
    dsimp only
    cases c.fault <;> exact (begun.trans pass).trans ended

/-! ## Every exporter -/

/-- Whatever is done with an exporter, it has the catalog of its file under the stem of the
configuration, and its status tells of the file. -/
structure Settled (c : Config) (files : String → FileState) (x : Exporter) : Prop where
  catalog : x.catalog = ⟨declarationsOf c files, c.exporter.metricPrefix⟩
  stem : x.options.stem = c.exporter.metricPrefix
  statusStem : x.status.stem = c.exporter.metricPrefix
  noted : c.exporter.userQueriesPath ≠ none → x.status.loadError.toList ≠ []

theorem Settled.continues {c : Config} {files : String → FileState} {x y : Exporter}
    (h : Settled c files x) (same : x.SameSettings y) (status : x.status.Continues y.status) :
    Settled c files y where
  catalog := same.catalog.trans h.catalog
  stem := same.options ▸ h.stem
  statusStem := status.stem.trans h.statusStem
  noted named := status.noted (h.noted named)

theorem settled_of_new {c : Config} {files : String → FileState} {x : Exporter}
    (h : Exporter.new c files = .ok x) : Settled c files x := by
  obtain ⟨catalog, status⟩ := catalog_and_status_of_new h
  refine ⟨catalog, ?_, by rw [status], fun named => ?_⟩
  · obtain ⟨catalog, status, rfl⟩ := eq_of_new h
    rfl
  · rw [status]
    cases given : c.exporter.userQueriesPath with
    | none => exact absurd given named
    | some path => exact Dict.toList_insert_ne_nil .empty _ _

theorem settled_of_reachable {b : Backend δ} {c : Config} {files : String → FileState}
    {x : Exporter} (h : Reachable b c files x) : Settled c files x := by
  induction h with
  | created h => exact settled_of_new h
  | collected h clock completes w ih =>
    have spec := collectSpec_collectIn (sound_of_reachable h) b clock completes.perm.subset w
    exact ih.continues spec.same (continues_collectIn b clock _ _ w)
  | closed h w ih => exact ⟨ih.catalog, ih.stem, ih.statusStem, ih.noted⟩
  | askedUp h fingerprint ih =>
    exact ih.continues ⟨rfl, rfl, rfl, rfl, rfl⟩ (Status.continues_readUp ..)
  | askedLoadError h r ih =>
    exact ih.continues ⟨rfl, rfl, rfl, rfl, rfl⟩ (Status.continues_readLoadError ..)

/-! ## Names of a pass -/

section Names

variable {c : Config} {files : String → FileState} {x : Exporter}

/-- What a metric of a pass comes from: the version of a server, a parameter, or a column. -/
inductive Source where
  | version
  | parameter (name : String)
  | column (namespaceName : String) (n : Namespace) (name : String)

namespace Source

/-- The name of its metrics without the stem. -/
def bareName (stem : String) : Source → String
  | .version => "static"
  | .parameter name => "settings" ++ "_" ++ name
  | .column namespaceName n name =>
    PgMetrics.bareName stem namespaceName ++ "_" ++ n.exportedColumn name

/-- The type of its metrics. -/
def type : Source → FamilyType
  | .version | .parameter _ => .gauge
  | .column _ n name => n.columnType name

/-- The namespace of a column is declared, by the user or before. -/
def Declared (c : Config) (files : String → FileState) : Source → Prop
  | .version | .parameter _ => True
  | .column namespaceName n _ => (declarationsOf c files).layout.get? namespaceName = some n

/-- The source can give the metric. -/
structure Gives (c : Config) (files : String → FileState) (s : Source) (m : Metric) : Prop where
  declared : s.Declared c files
  named : m.name = stemmed c.exporter.metricPrefix (s.bareName c.exporter.metricPrefix)
  typed : FamilyType.ofReading m.reading = s.type

end Source

theorem Emits.exists_source (h : Settled c files x) {fingerprint : String} {m : Metric}
    (emits : x.Emits fingerprint m) : ∃ s : Source, s.Gives c files m := by
  have catalog := h.catalog
  cases emits with
  | @version s labels info =>
    have stem : x.catalog.stem = c.exporter.metricPrefix := by rw [catalog]
    exact ⟨.version, trivial, stem ▸ rfl, rfl⟩
  | setting gauge =>
    obtain ⟨parameter, help, value, rfl⟩ := Setting.metric_eq_ok gauge
    refine ⟨.parameter parameter, trivial, ?_, rfl⟩
    change metricName x.options.stem "settings" parameter = _
    rw [h.stem, metricName_eq_stemmed, bareName_of_notMem (by decide)]
    rfl
  | column exported =>
    obtain ⟨namespaceName, n, v, column, declared, exports⟩ := exported
    rw [catalog] at declared exports
    exact ⟨.column namespaceName n column, declared,
      exports.name_eq.trans (metricName_eq_stemmed ..), exports.type_eq⟩

/-- No standard namespace ends in the beginning of a name of the status. -/
theorem not_ownName_of_standard {stem namespaceName : String}
    (h : namespaceName ∈ Declarations.standard.layout.keys) (column : String) :
    bareName stem namespaceName ++ "_" ++ column ∉ Status.ownNames := by
  -- whatever the stem is, what is left of a namespace is one of its endings
  have apart : ∀ n ∈ Declarations.standard.layout.keys, ∀ ending ∈ n.toList.tails,
      ∀ name ∈ Status.ownNames, (ending ++ ['_']).isPrefixOf name.toList = false := by
    decide +kernel
  intro own
  have other := apart _ h _ ((List.mem_tails _ _).mpr (bareName_suffix stem namespaceName)) _ own
  have start : (bareName stem namespaceName).toList ++ ['_'] <+:
      (bareName stem namespaceName ++ "_" ++ column).toList := by
    simp
  rw [List.isPrefixOf_iff_prefix.mpr start] at other
  cases other

/-- The metric has a name of the status, which a column of a namespace in the user's file takes,
whether the column is declared there or not. -/
def TakesOwnName (c : Config) (files : String → FileState) (m : Metric) : Prop :=
  ∃ d namespaceName column, userDeclarations c files = some d ∧ namespaceName ∈ d.layout.keys ∧
    bareName c.exporter.metricPrefix namespaceName ++ "_" ++ column ∈ Status.ownNames ∧
    m.name = metricName c.exporter.metricPrefix namespaceName column

theorem mem_keys_of_declarationsOf {namespaceName : String} {n : Namespace}
    (h : (declarationsOf c files).layout.get? namespaceName = some n) :
    (∃ d, userDeclarations c files = some d ∧ namespaceName ∈ d.layout.keys) ∨
      namespaceName ∈ Declarations.standard.layout.keys := by
  have of_base {d : Declarations} (declared : d.layout.get? namespaceName = some n) :
      namespaceName ∈ d.layout.keys :=
    List.mem_map_of_mem (Dict.get?_eq_some_iff.mp declared)
  have standard (declared : (Declarations.base !c.exporter.disableDefaultMetrics).layout.get?
      namespaceName = some n) : namespaceName ∈ Declarations.standard.layout.keys := by
    unfold Declarations.base at declared
    split at declared
    · exact of_base declared
    · cases declared
  -- the namespaces of the file stand before those that the catalog starts from
  unfold declarationsOf at h
  cases given : userDeclarations c files with
  | none =>
    rw [given] at h
    exact .inr (standard h)
  | some d =>
    rw [given] at h
    dsimp only [Declarations.merge] at h
    rw [Dict.get?_merge] at h
    rcases Option.or_eq_some_iff.mp h with declared | ⟨-, declared⟩
    · exact .inl ⟨d, rfl, of_base declared⟩
    · exact .inr (standard declared)

/-- A metric of a pass has a name of the status only if it takes one of the status's own. -/
theorem takesOwnName_of_emits (h : Settled c files x) {fingerprint : String} {m : Metric}
    (emits : x.Emits fingerprint m) {name : String}
    (same : m.name = stemmed c.exporter.metricPrefix name)
    (shared : name = "up" ∨ name ∈ Status.ownNames) : TakesOwnName c files m := by
  obtain ⟨source, declared, named, -⟩ := emits.exists_source h
  rw [named] at same
  obtain rfl := stemmed_inj.mp same
  cases source with
  | version =>
    have other : ¬ ("static" = "up" ∨ "static" ∈ Status.ownNames) := by
      decide
    exact absurd shared other
  | parameter name =>
    -- no name of the status begins like that of a parameter
    have first : ∀ name ∈ "up" :: Status.ownNames, name.toList.head? ≠ some 's' := by
      decide
    exact absurd (by simp [Source.bareName]) (first _ (List.mem_cons.mpr shared))
  | column namespaceName n column =>
    rcases shared with up | own
    · -- the name of a column has an underscore behind the stem
      have underscore : '_' ∈ "up".toList := by
        rw [← up]
        simp [Source.bareName]
      exact absurd underscore (by decide)
    · rcases mem_keys_of_declarationsOf declared with ⟨d, given, mem⟩ | standard
      · exact ⟨d, namespaceName, _, given, mem, own, named.trans (metricName_eq_stemmed ..).symm⟩
      · exact absurd own (not_ownName_of_standard standard _)

theorem TakesOwnName.exists_name {m : Metric} (h : TakesOwnName c files m) :
    c.exporter.userQueriesPath ≠ none ∧
      ∃ name ∈ Status.ownNames, m.name = stemmed c.exporter.metricPrefix name := by
  obtain ⟨d, namespaceName, column, given, -, own, named⟩ := h
  constructor
  · obtain ⟨path, configured, -⟩ := Option.bind_eq_some_iff.mp given
    simp [configured]
  · exact ⟨_, own, named.trans (metricName_eq_stemmed ..)⟩

end Names

/-! ## Families of a pass with the status -/

theorem map_name_withStatus_perm (families : List Family) (s : Status) :
    ((withStatus families s).map (·.name)).Perm
      (families.map (·.name) ++ s.families.map (·.name)) := by
  rw [← List.map_append]
  exact (List.mergeSort_perm ..).map _

/-- The families stand in the order of their names. -/
theorem pairwise_le_withStatus (families : List Family) (s : Status) :
    ((withStatus families s).map (·.name)).Pairwise (· ≤ ·) := by
  have sorted : (withStatus families s).Pairwise fun a b => decide (a.name ≤ b.name) = true := by
    refine List.pairwise_mergeSort (fun a b c ab bc => ?_) (fun a b => ?_) _
    · exact decide_eq_true (String.le_trans (of_decide_eq_true ab) (of_decide_eq_true bc))
    · simpa using String.le_total a.name b.name
  exact List.pairwise_map.mpr (sorted.imp of_decide_eq_true)

/-- No name has two families exactly if no metric has a name of the status. -/
theorem pairwise_lt_withStatus_iff (metrics : List Metric) (s : Status) :
    ((withStatus (Family.group metrics) s).map (·.name)).Pairwise (· < ·) ↔
      ∀ m ∈ metrics, ∀ own ∈ s.metrics, m.name ≠ own.name := by
  have distinct : ((withStatus (Family.group metrics) s).map (·.name)).Nodup ↔
      ∀ m ∈ metrics, ∀ own ∈ s.metrics, m.name ≠ own.name := by
    have nodup (l : List Metric) : ((Family.group l).map (·.name)).Nodup :=
      (Family.pairwise_name_group l).imp Std.ne_of_lt
    rw [(map_name_withStatus_perm _ s).nodup_iff, List.nodup_append]
    constructor
    · rintro ⟨-, -, apart⟩ m mem own mem'
      exact apart _ (Family.mem_name_group.mpr ⟨m, mem, rfl⟩) _
        (Family.mem_name_group.mpr ⟨own, mem', rfl⟩)
    · intro apart
      refine ⟨nodup metrics, nodup s.metrics, fun name given name' given' => ?_⟩
      obtain ⟨m, mem, rfl⟩ := Family.mem_name_group.mp given
      obtain ⟨own, mem', rfl⟩ := Family.mem_name_group.mp given'
      exact apart m mem own mem'
  rw [← distinct]
  constructor
  · exact fun ascending => ascending.imp Std.ne_of_lt
  · intro once
    exact ((pairwise_le_withStatus _ s).and once).imp fun h => Std.lt_of_le_of_ne h.1 h.2

section Gather

variable {b : Backend δ} {clock : PassClock} {x : Exporter} {w : World δ}

theorem gather_eq_ok {families : List Family} :
    (x.gather b clock w).1 = .ok families ↔
      ∃ metrics, (x.collect b clock w).1 = .ok metrics ∧
        withStatus (Family.group metrics) (x.collect b clock w).2.1.status = families := by
  unfold gather gatherIn collect
  generalize x.collectIn b clock x.endpoints w = result
  obtain ⟨answer, x', w'⟩ := result
  cases answer <;> simp

variable {c : Config} {files : String → FileState} (reachable : Reachable b c files x)
  {metrics : List Metric} (collected : (x.collect b clock w).1 = .ok metrics)
include reachable

/-- A metric that takes a name of the status gives the name a second family. -/
theorem not_ascending_of_takesOwnName {m : Metric} (mem : m ∈ metrics)
    (takes : TakesOwnName c files m) :
    ¬ ((withStatus (Family.group metrics)
      (x.collect b clock w).2.1.status).map (·.name)).Pairwise (· < ·) := by
  have after := settled_of_reachable (reachable.collect clock w)
  obtain ⟨configured, name, own, named⟩ := takes.exists_name
  obtain ⟨m', mem', same⟩ := Status.exists_metric_of_mem_ownNames own (after.noted configured)
  rw [after.statusStem, ← named] at same
  intro ascending
  exact (pairwise_lt_withStatus_iff metrics _).mp ascending m mem m' mem' same.symm

include collected

theorem ascending_of_apart (apart : ∀ m ∈ metrics, ¬ TakesOwnName c files m) :
    ((withStatus (Family.group metrics)
      (x.collect b clock w).2.1.status).map (·.name)).Pairwise (· < ·) := by
  have after := settled_of_reachable (reachable.collect clock w)
  refine (pairwise_lt_withStatus_iff metrics _).mpr fun m mem own mem' same => apart m mem ?_
  obtain ⟨e, -, emits⟩ := emits_of_collect reachable collected mem
  have named := Status.name_of_mem_metrics mem'
  rw [← same, after.statusStem] at named
  have settled := settled_of_reachable reachable
  rcases named with named | ⟨name, shared, named⟩
  · exact takesOwnName_of_emits settled emits named (.inl rfl)
  · exact takesOwnName_of_emits settled emits named (.inr shared)

end Gather

/-- The families of a pass with the status stand in the order of their names. No name comes twice
exactly if no metric of the pass takes a name of the status, which only a column of a namespace in
the user's file does. -/
theorem names_ascend_iff_apart {b : Backend δ} {c : Config} {files : String → FileState}
    {x : Exporter} (reachable : Reachable b c files x) {clock : PassClock} {w : World δ}
    {families : List Family} (gathered : (x.gather b clock w).1 = .ok families) :
    ∃ metrics, (x.collect b clock w).1 = .ok metrics ∧
      (families.map (·.name)).Pairwise (· ≤ ·) ∧
      ((families.map (·.name)).Pairwise (· < ·) ↔ ∀ m ∈ metrics, ¬ TakesOwnName c files m) := by
  obtain ⟨metrics, collected, rfl⟩ := gather_eq_ok.mp gathered
  refine ⟨metrics, collected, pairwise_le_withStatus _ _, fun ascending m mem takes => ?_,
    ascending_of_apart reachable collected⟩
  exact not_ascending_of_takesOwnName reachable mem takes ascending

namespace ScrapesColumn

open UnknownColumn (config clock world)

/-- A text that declares a column which is exported under a name of the status. -/
def text : String :=
  "pg_exporter:\n  query: select a\n  metrics:\n" ++
    "    - scrapes_total: \x7busage: COUNTER, description: A\x7d\n"

def files (_ : String) : FileState := .contents text.toUTF8.toList

/-- Databases that know their banner and otherwise answer with a number. -/
def backend : Backend Unit where
  connect _ d := (.ok (), d)
  ping d := (.ok (), d)
  query sql d :=
    if sql = versionQuery then (.ok ⟨["version"], [[.text "PostgreSQL 14.0"]]⟩, d)
    else (.ok ⟨["scrapes_total"], [[.int 5]]⟩, d)
  close d := d

/-- The names of the metrics of the first pass. -/
def firstPass (x : Exporter) : Option (List String) :=
  (x.collect backend clock world).1.toOption.map fun metrics => metrics.map Metric.name

theorem firstPass_of_config :
    config.validate = .ok () ∧
      (userDeclarations config files).map (·.layout.keys) = some ["pg_exporter"] ∧
      (Exporter.new config files).toOption.bind firstPass = some ["pg_exporter_scrapes_total"] := by
  decide +kernel

theorem exists_taken :
    ∃ x metrics, Reachable backend config files x ∧
      (x.collect backend clock world).1 = .ok metrics ∧
      ∃ m ∈ metrics, TakesOwnName config files m := by
  obtain ⟨-, declared, pass⟩ := firstPass_of_config
  obtain ⟨d, given, keys⟩ := Option.map_eq_some_iff.mp declared
  obtain ⟨x, created, pass⟩ := Option.bind_eq_some_iff.mp pass
  obtain ⟨metrics, collected, names⟩ := Option.map_eq_some_iff.mp pass
  obtain ⟨m, mem, named⟩ := List.mem_map.mp (names ▸ List.mem_singleton_self _)
  refine ⟨x, metrics, .created (eq_ok_of_toOption created), eq_ok_of_toOption collected, m, mem,
    d, "pg_exporter", "scrapes_total", given, by simp [keys], by decide +kernel, ?_⟩
  rw [named]
  decide +kernel

/-- A valid configuration with a file that loads need not have every name once. -/
theorem not_ascending_of_valid_of_loads :
    ¬ ∀ (c : Config) (files : String → FileState) (x : Exporter), c.validate = .ok () →
      (∀ path, c.exporter.userQueriesPath = some path →
        (UserQueries.load path (files path)).isOk = true) →
      Reachable backend c files x → ∀ (clock : PassClock) (w : World Unit) (families : List Family),
        (x.gather backend clock w).1 = .ok families →
          (families.map (·.name)).Pairwise (· < ·) := by
  intro ascends
  obtain ⟨x, metrics, reachable, collected, m, mem, takes⟩ := exists_taken
  have loaded (path : String) (given : config.exporter.userQueriesPath = some path) :
      (UserQueries.load path (files path)).isOk = true := by
    obtain rfl : "queries.yaml" = path := Option.some.inj given
    decide +kernel
  exact not_ascending_of_takesOwnName reachable mem takes <|
    ascends config files x firstPass_of_config.1 loaded reachable clock world _
      (gather_eq_ok.mpr ⟨metrics, collected, rfl⟩)

/-- The number of passes and the column have a family each of one name. -/
theorem not_ascending_of_scrapes_column :
    ∃ x families, Reachable backend config files x ∧
      (x.gather backend clock world).1 = .ok families ∧
      (families.map (·.name)).Pairwise (· ≤ ·) ∧
      ¬ (families.map (·.name)).Pairwise (· < ·) := by
  obtain ⟨x, metrics, reachable, collected, m, mem, takes⟩ := exists_taken
  have gathered := gather_eq_ok.mpr ⟨metrics, collected, rfl⟩
  obtain ⟨metrics', collected', sorted, apart⟩ := names_ascend_iff_apart reachable gathered
  obtain rfl := Except.ok.inj (collected.symm.trans collected')
  exact ⟨x, _, reachable, gathered, sorted, fun ascending => apart.mp ascending m mem takes⟩

end ScrapesColumn

end Exporter

end PgMetrics
