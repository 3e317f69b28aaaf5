import PgMetrics.Proofs.Exporter.Attribution

/-!
# Label names that come twice

The labels of a sample come from the version of the server or the label columns of a namespace, and
from the fixed labels of its endpoint. Neither has a name twice, but nothing keeps them apart: a
label column, or a label of the version, may be named like a constant label or like the label of the
server. A sample then has that name twice.

## Main definitions

* `Metric.labelNames` — the names of the labels that are written for a sample.
-/

namespace PgMetrics

namespace Metric

/-- The names of the labels of a sample, in the order in which they are written. -/
def labelNames (m : Metric) : List String := m.labelPairs.map (·.1)

theorem map_fst_zipLabels (names values : List String) :
    (zipLabels names values).map (·.1) = names := by
  induction names generalizing values with
  | nil => cases values <;> rfl
  | cons name rest ih => cases values <;> simp [zipLabels, ih]

theorem labelNames_perm (m : Metric) :
    m.labelNames.Perm (m.descriptor.variableLabels ++ m.descriptor.constLabels.keys) := by
  have sorted : m.labelPairs.Perm (zipLabels m.descriptor.variableLabels m.labelValues ++
      m.descriptor.constLabels.toList) := List.mergeSort_perm ..
  have names := sorted.map (·.1)
  rw [List.map_append, map_fst_zipLabels] at names
  exact names

/-- A name comes twice if it varies twice, or if it both varies and is fixed. -/
theorem nodup_labelNames_iff {m : Metric} :
    m.labelNames.Nodup ↔ m.descriptor.variableLabels.Nodup ∧
      ∀ l ∈ m.descriptor.variableLabels, l ∉ m.descriptor.constLabels.keys := by
  rw [m.labelNames_perm.nodup_iff, List.nodup_append]
  have keys := Dict.nodup_keys m.descriptor.constLabels
  grind

end Metric

theorem Namespace.nodup_labelColumns (n : Namespace) (v : Version) :
    (n.labelColumns v).Nodup :=
  n.columns.nodup_keys.sublist (List.filter_sublist.map _)

namespace Exporter

variable {δ : Type}

/-- Where the varying labels of a metric come from. -/
theorem Emits.variableLabels {x : Exporter} {fingerprint : String} {m : Metric}
    (h : x.Emits fingerprint m) :
    m.descriptor.variableLabels = [] ∨
      m.descriptor.variableLabels = ["short_version", "version"] ∨
      ∃ namespaceName n v, x.catalog.declarations.layout.get? namespaceName = some n ∧
        m.descriptor.variableLabels = n.labelColumns v := by
  cases h with
  | version own info => exact .inr (.inl rfl)
  | setting gauge =>
    obtain ⟨name, help, value, rfl⟩ := Setting.metric_eq_ok gauge
    exact .inl rfl
  | column exported =>
    obtain ⟨namespaceName, n, v, column, declared, exports⟩ := exported
    exact .inr (.inr ⟨namespaceName, n, v, declared, exports.variableLabels⟩)

theorem Emits.nodup_variableLabels {x : Exporter} {fingerprint : String} {m : Metric}
    (h : x.Emits fingerprint m) : m.descriptor.variableLabels.Nodup := by
  rcases h.variableLabels with none | version | ⟨namespaceName, n, v, -, columns⟩
  · simp [none]
  · simp [version]
  · rw [columns]
    exact n.nodup_labelColumns v

/-- A sample of a pass has all its label names once exactly if none of its varying labels is named
like the label of the server or like a constant label. The varying labels are those of the version
of a server or the label columns of a declared namespace, and among themselves they are distinct. -/
theorem nodup_labelNames_iff_apart {b : Backend δ} {c : Config} {files : String → FileState}
    {x : Exporter} (reachable : Reachable b c files x) {clock : PassClock} {w : World δ}
    {metrics : List Metric} (collected : (x.collect b clock w).1 = .ok metrics) {m : Metric}
    (mem : m ∈ metrics) :
    (m.labelNames.Nodup ↔
      ∀ l ∈ m.descriptor.variableLabels,
        l ≠ serverLabel ∧ l ∉ c.exporter.constantLabels.keys) ∧
    m.descriptor.variableLabels.Nodup ∧
    (m.descriptor.variableLabels = [] ∨
      m.descriptor.variableLabels = ["short_version", "version"] ∨
      ∃ namespaceName n v, x.catalog.declarations.layout.get? namespaceName = some n ∧
        m.descriptor.variableLabels = n.labelColumns v) := by
  obtain ⟨e, -, emits⟩ :=
    (collectSpec_collect (sound_of_reachable reachable) b clock w).emits metrics collected m mem
  have distinct := emits.nodup_variableLabels
  have fixed (l : String) : l ∈ m.descriptor.constLabels.keys ↔
      l = serverLabel ∨ l ∈ c.exporter.constantLabels.keys := by
    rw [emits.labels, labelsOf, Dict.mem_keys_insert,
      (configured_of_reachable reachable).constantLabels]
  refine ⟨?_, distinct, emits.variableLabels⟩
  simp only [Metric.nodup_labelNames_iff, distinct, true_and, fixed, not_or, ne_eq]

namespace ServerColumn

open TwoServers (clock world)

/-- A text that declares a label column named like the label of the server. -/
def text : String :=
  "pg_x:\n  query: select server, a\n  metrics:\n" ++
    "    - server: \x7busage: LABEL\x7d\n    - a: \x7busage: GAUGE\x7d\n"

def files (_ : String) : FileState := .contents text.toUTF8.toList

/-- One endpoint, of which only the user's namespaces are exported. -/
def config : Config :=
  { Config.standard with
    exporter := { ScrapeConfig.standard with
      disableDefaultMetrics := true
      disableSettingsMetrics := true
      userQueriesPath := some "queries.yaml" }
    endpoints := [.ofHost "db"] }

/-- Databases that know their banner and otherwise answer with a row. -/
def backend : Backend Unit where
  connect _ d := (.ok (), d)
  ping d := (.ok (), d)
  query sql d :=
    if sql = versionQuery then (.ok ⟨["version"], [[.text "PostgreSQL 14.0"]]⟩, d)
    else (.ok ⟨["server", "a"], [[.text "x", .int 1]]⟩, d)
  close d := d

/-- The varying labels and the names of the fixed ones, of the metrics of the first pass. -/
def firstPass (x : Exporter) : Option (List (List String × List String)) :=
  (x.collect backend clock world).1.toOption.map fun metrics =>
    metrics.map fun m => (m.descriptor.variableLabels, m.descriptor.constLabels.keys)

/-- The label of the one metric both varies and is fixed. -/
theorem firstPass_of_config :
    config.validate = .ok () ∧
      (UserQueries.load "queries.yaml" (files "queries.yaml")).isOk = true ∧
      (Exporter.new config files).toOption.bind firstPass = some [(["server"], ["server"])] := by
  decide +kernel

theorem exists_server_label :
    ∃ x metrics, Reachable backend config files x ∧
      (x.collect backend clock world).1 = .ok metrics ∧
      ∃ m ∈ metrics, serverLabel ∈ m.descriptor.variableLabels ∧
        serverLabel ∈ m.descriptor.constLabels.keys := by
  obtain ⟨x, created, pass⟩ := Option.bind_eq_some_iff.mp firstPass_of_config.2.2
  obtain ⟨metrics, collected, names⟩ := Option.map_eq_some_iff.mp pass
  obtain ⟨m, mem, labels⟩ := List.mem_map.mp (names ▸ List.mem_singleton_self _)
  obtain ⟨varying, fixed⟩ := Prod.mk.inj labels
  refine ⟨x, metrics, .created (eq_ok_of_toOption created), eq_ok_of_toOption collected, m, mem,
    ?_, ?_⟩
  · simp [varying, serverLabel]
  · simp [fixed, serverLabel]

/-- A valid configuration with a file that loads need not have every label name once. -/
theorem not_nodup_of_valid_of_loads :
    ¬ ∀ (c : Config) (files : String → FileState) (x : Exporter), c.validate = .ok () →
      (∀ path, c.exporter.userQueriesPath = some path →
        (UserQueries.load path (files path)).isOk = true) →
      Reachable backend c files x → ∀ (clock : PassClock) (w : World Unit) (metrics : List Metric),
        (x.collect backend clock w).1 = .ok metrics → ∀ m ∈ metrics, m.labelNames.Nodup := by
  intro distinct
  obtain ⟨valid, loads, -⟩ := firstPass_of_config
  have loaded (path : String) (given : config.exporter.userQueriesPath = some path) :
      (UserQueries.load path (files path)).isOk = true := by
    obtain rfl : "queries.yaml" = path := Option.some.inj given
    exact loads
  obtain ⟨x, metrics, reachable, collected, m, mem, varying, fixed⟩ := exists_server_label
  have once := distinct config files x valid loaded reachable clock world metrics collected m mem
  exact (Metric.nodup_labelNames_iff.mp once).2 _ varying fixed

/-- The sample has the name of the server's label twice. -/
theorem not_nodup_of_server_column :
    ∃ x metrics, Reachable backend config files x ∧
      (x.collect backend clock world).1 = .ok metrics ∧ ∃ m ∈ metrics, ¬ m.labelNames.Nodup := by
  obtain ⟨x, metrics, reachable, collected, m, mem, varying, -⟩ := exists_server_label
  refine ⟨x, metrics, reachable, collected, m, mem, fun once => ?_⟩
  exact ((nodup_labelNames_iff_apart reachable collected mem).1.mp once _ varying).1 rfl

end ServerColumn

end Exporter

end PgMetrics
