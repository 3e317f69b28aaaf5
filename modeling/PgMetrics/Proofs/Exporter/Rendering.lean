import PgMetrics.Config.Validate
import PgMetrics.Proofs.Exporter.Passes
import PgMetrics.Proofs.Metric.Exposition
import PgMetrics.Proofs.Metric.Families

/-!
# When a pass can be written

The families of a pass have names and samples, and those of the status have types. So a pass can be
written unless the first metric of a name comes from a column that nothing is declared of. Such a
column makes its family untyped, and the text format has no lines for that.

## Main definitions

* `Exporter.OfUnknownColumn` — the metrics of columns that nothing is declared of.
-/

namespace PgMetrics

/-! ## Names -/

theorem metricName_ne_empty (stem namespaceName column : String) :
    metricName stem namespaceName column ≠ "" := by
  unfold metricName
  dsimp only
  split <;> split <;> simp

theorem stemmed_ne_empty (stem : String) {name : String} (h : name ≠ "") :
    stemmed stem name ≠ "" := by
  unfold stemmed
  split <;> simp [h]

theorem Namespace.Exports.named {n : Namespace} {v : Version} {namespaceName stem : String}
    {constLabels : Dict String String} {column : String} {m : Metric}
    (h : n.Exports v namespaceName stem constLabels column m) : m.name ≠ "" := by
  cases h <;> exact metricName_ne_empty _ _ _

theorem Family.isRegular_of_mem_group {metrics : List Metric} {f : Family}
    (h : f ∈ group metrics) (named : ∀ m ∈ metrics, m.name ≠ "") : f.IsRegular := by
  obtain ⟨m, first, name, -, sampled⟩ := isFirst_of_mem_group h
  exact ⟨name ▸ named m first.mem, sampled⟩

namespace Status

/-- The status has names and types. -/
theorem named_and_typed_of_mem_metrics {s : Status} {m : Metric} (h : m ∈ s.metrics) :
    m.name ≠ "" ∧ FamilyType.ofReading m.reading ≠ .untyped := by
  have named {name : String} (h : name ≠ "") : stemmed s.stem name ≠ "" := stemmed_ne_empty _ h
  unfold metrics at h
  simp only [List.mem_append, List.mem_map, List.mem_cons, List.not_mem_nil, or_false] at h
  rcases h with (⟨e, -, rfl⟩ | rfl | rfl | rfl) | ⟨e, -, rfl⟩
  all_goals exact ⟨named (by decide), nofun⟩

theorem regular_and_typed_of_mem_families {s : Status} {f : Family} (h : f ∈ s.families) :
    f.IsRegular ∧ f.type ≠ .untyped := by
  refine ⟨Family.isRegular_of_mem_group h fun m mem => (named_and_typed_of_mem_metrics mem).1, ?_⟩
  obtain ⟨m, first, -, type, -⟩ := Family.isFirst_of_mem_group h
  rw [type]
  exact (named_and_typed_of_mem_metrics first.mem).2

end Status

namespace Exporter

variable {δ : Type}

theorem mem_withStatus {families : List Family} {s : Status} {f : Family} :
    f ∈ withStatus families s ↔ f ∈ families ∨ f ∈ s.families := by
  unfold withStatus
  rw [List.mem_mergeSort, List.mem_append]

/-! ## Metrics without a type -/

/-- The metrics of columns that nothing is declared of. -/
def OfUnknownColumn (x : Exporter) (m : Metric) : Prop :=
  ∃ e ∈ x.endpoints, ∃ namespaceName n v column,
    x.catalog.declarations.layout.get? namespaceName = some n ∧
    n.columns.get? column = none ∧
    n.Exports v namespaceName x.catalog.stem (x.labelsOf e.fingerprint) column m

theorem Emits.named {x : Exporter} {fingerprint : String} {m : Metric}
    (h : x.Emits fingerprint m) : m.name ≠ "" := by
  cases h with
  | version labels info => exact stemmed_ne_empty _ (by decide)
  | setting gauge =>
    obtain ⟨name, help, value, rfl⟩ := Setting.metric_eq_ok gauge
    exact metricName_ne_empty _ _ _
  | column exported =>
    obtain ⟨namespaceName, n, v, column, -, exports⟩ := exported
    exact exports.named

theorem OfUnknownColumn.untyped {x : Exporter} {m : Metric} (h : x.OfUnknownColumn m) :
    FamilyType.ofReading m.reading = .untyped := by
  obtain ⟨e, -, namespaceName, n, v, column, -, undeclared, exports⟩ := h
  exact exports.undeclared_iff.mp undeclared

theorem Emits.ofUnknownColumn {x : Exporter} {e : Endpoint} {m : Metric} (mem : e ∈ x.endpoints)
    (h : x.Emits e.fingerprint m) (untyped : FamilyType.ofReading m.reading = .untyped) :
    x.OfUnknownColumn m := by
  cases h with
  | version labels info => cases untyped
  | setting gauge =>
    obtain ⟨name, help, value, rfl⟩ := Setting.metric_eq_ok gauge
    cases untyped
  | column exported =>
    obtain ⟨namespaceName, n, v, column, declared, exports⟩ := exported
    exact ⟨e, mem, namespaceName, n, v, column, declared, exports.undeclared_iff.mpr untyped,
      exports⟩

/-! ## The text of a pass -/

section Text

variable {b : Backend δ} {clock : PassClock} {x : Exporter} {w : World δ} {metrics : List Metric}

theorem render_of_collect (collected : (x.collect b clock w).1 = .ok metrics) :
    ∃ status : Status, (x.render b clock w).1 =
      (Exposition.render (withStatus (Family.group metrics) status)).mapError .render := by
  unfold collect at collected
  unfold render renderIn gatherIn
  generalize x.collectIn b clock x.endpoints w = result at collected
  obtain ⟨answer, x', w'⟩ := result
  obtain rfl : answer = .ok metrics := collected
  exact ⟨x'.status, rfl⟩

section Regular

variable (named : ∀ m ∈ metrics, m.name ≠ "")
include named

theorem isRegular_of_mem_withStatus (status : Status) :
    ∀ f ∈ withStatus (Family.group metrics) status, f.IsRegular := by
  intro f mem
  rcases mem_withStatus.mp mem with mem | mem
  · exact Family.isRegular_of_mem_group mem named
  · exact (Status.regular_and_typed_of_mem_families mem).1

/-- A pass in which every name starts with a type is written. -/
theorem render_of_typed (collected : (x.collect b clock w).1 = .ok metrics)
    (typed : ∀ m, Family.IsFirst metrics m → FamilyType.ofReading m.reading ≠ .untyped) :
    ∃ text, (x.render b clock w).1 = .ok text := by
  obtain ⟨status, rendered⟩ := render_of_collect collected
  have families : ∀ f ∈ withStatus (Family.group metrics) status, f.type ≠ .untyped := by
    intro f mem
    rcases mem_withStatus.mp mem with mem | mem
    · obtain ⟨m, first, -, type, -⟩ := Family.isFirst_of_mem_group mem
      rw [type]
      exact typed m first
    · exact (Status.regular_and_typed_of_mem_families mem).2
  obtain ⟨text, written⟩ :=
    Exposition.render_of_typed (isRegular_of_mem_withStatus named status) families
  exact ⟨text, by rw [rendered, written]; rfl⟩

/-- One name that starts without a type aborts the pass. -/
theorem render_of_untyped (collected : (x.collect b clock w).1 = .ok metrics)
    (untyped : ∃ m, Family.IsFirst metrics m ∧ FamilyType.ofReading m.reading = .untyped) :
    (x.render b clock w).1 = .error (.render (.aborted .untypedFamily)) := by
  obtain ⟨status, rendered⟩ := render_of_collect collected
  obtain ⟨m, first, type⟩ := untyped
  obtain ⟨f, mem, -, same⟩ := Family.exists_mem_group_of_isFirst first
  have written := Exposition.render_of_untyped (isRegular_of_mem_withStatus named status)
    ⟨f, mem_withStatus.mpr (.inl mem), same.trans type⟩
  rw [rendered, written]
  rfl

end Regular

/-- Whatever a reachable exporter gives comes from one of its endpoints. -/
theorem emits_of_collect {c : Config} {files : String → FileState}
    (reachable : Reachable b c files x) (collected : (x.collect b clock w).1 = .ok metrics)
    {m : Metric} (mem : m ∈ metrics) : ∃ e ∈ x.endpoints, x.Emits e.fingerprint m :=
  (collectSpec_collect (sound_of_reachable reachable) b clock w).emits metrics collected m mem

theorem named_of_collect {c : Config} {files : String → FileState}
    (reachable : Reachable b c files x) (collected : (x.collect b clock w).1 = .ok metrics) :
    ∀ m ∈ metrics, m.name ≠ "" := by
  intro m mem
  obtain ⟨e, -, emits⟩ := emits_of_collect reachable collected mem
  exact emits.named

/-- The metrics without a type are those of unknown columns. -/
theorem untyped_iff_ofUnknownColumn {c : Config} {files : String → FileState}
    (reachable : Reachable b c files x) (collected : (x.collect b clock w).1 = .ok metrics)
    {m : Metric} (mem : m ∈ metrics) :
    FamilyType.ofReading m.reading = .untyped ↔ x.OfUnknownColumn m := by
  obtain ⟨e, endpoint, emits⟩ := emits_of_collect reachable collected mem
  exact ⟨emits.ofUnknownColumn endpoint, OfUnknownColumn.untyped⟩

/-- A pass is written exactly if no name starts with a metric of an unknown column; otherwise it
aborts. -/
theorem render_eq_ok_iff_known {c : Config} {files : String → FileState}
    (reachable : Reachable b c files x) (collected : (x.collect b clock w).1 = .ok metrics) :
    ((∃ text, (x.render b clock w).1 = .ok text) ↔
      ∀ m, Family.IsFirst metrics m → ¬ x.OfUnknownColumn m) ∧
    ((x.render b clock w).1 = .error (.render (.aborted .untypedFamily)) ↔
      ∃ m, Family.IsFirst metrics m ∧ x.OfUnknownColumn m) := by
  have named := named_of_collect reachable collected
  have unknown {m : Metric} (first : Family.IsFirst metrics m) :=
    untyped_iff_ofUnknownColumn reachable collected first.mem
  by_cases untyped : ∃ m, Family.IsFirst metrics m ∧ x.OfUnknownColumn m
  · obtain ⟨m, first, source⟩ := untyped
    have aborted := render_of_untyped named collected ⟨m, first, (unknown first).mpr source⟩
    refine ⟨⟨fun ⟨text, written⟩ => ?_, fun known => absurd source (known m first)⟩, ?_⟩
    · rw [aborted] at written
      cases written
    · exact ⟨fun _ => ⟨m, first, source⟩, fun _ => aborted⟩
  · have known : ∀ m, Family.IsFirst metrics m → ¬ x.OfUnknownColumn m :=
      fun m first source => untyped ⟨m, first, source⟩
    obtain ⟨text, written⟩ := render_of_typed named collected fun m first type =>
      known m first ((unknown first).mp type)
    refine ⟨⟨fun _ => known, fun _ => ⟨text, written⟩⟩, fun aborted => ?_,
      fun h => absurd h untyped⟩
    rw [written] at aborted
    cases aborted

end Text

namespace UnknownColumn

/-- A text that declares one column of a query that has two. -/
def text : String :=
  "pg_x:\n  query: select a, b\n  metrics:\n    - a: \x7busage: GAUGE, description: A\x7d\n"

/-- A file of the text. -/
def file : FileState := .contents text.toUTF8.toList

/-- One endpoint, of which only the user's namespaces are exported. -/
def config : Config :=
  { Config.standard with
    exporter := { ScrapeConfig.standard with
      disableDefaultMetrics := true
      disableSettingsMetrics := true
      userQueriesPath := some "queries.yaml" }
    endpoints := [.ofHost "db"] }

/-- Databases that know their banner and otherwise answer with two columns. -/
def backend : Backend Unit where
  connect _ d := (.ok (), d)
  ping d := (.ok (), d)
  query sql d :=
    if sql = versionQuery then (.ok ⟨["version"], [[.text "PostgreSQL 14.0"]]⟩, d)
    else (.ok ⟨["a", "b"], [[.int 1, .int 2]]⟩, d)
  close d := d

/-- The start of 1970, for a pass that takes no time. -/
def clock : PassClock := ⟨fun _ => default, 0.0⟩

/-- Nothing was done yet. -/
def world : World Unit := ⟨fun _ => (), []⟩

theorem validate_config : config.validate.isOk = true := by
  decide +kernel

theorem exporter_isSome : (Exporter.new config fun _ => file).toOption.isSome = true := by
  decide +kernel

/-- The exporter of the configuration. -/
def exporter : Exporter := (Exporter.new config fun _ => file).toOption.get exporter_isSome

theorem reachable : Reachable backend config (fun _ => file) exporter :=
  .created (eq_ok_get_toOption exporter_isSome)

theorem metrics_isSome :
    (exporter.collect backend clock world).1.toOption.isSome = true := by
  decide +kernel

/-- The metrics of its first pass. -/
def metrics : List Metric := (exporter.collect backend clock world).1.toOption.get metrics_isSome

theorem collected : (exporter.collect backend clock world).1 = .ok metrics :=
  eq_ok_get_toOption metrics_isSome

/-- The second family has no type. -/
theorem types_of_group :
    (Family.group metrics).map (fun f => (f.name, f.type)) =
      [("pg_x_a", .gauge), ("pg_x_b", .untyped)] := by
  decide +kernel

theorem exists_untyped :
    ∃ m, Family.IsFirst metrics m ∧ FamilyType.ofReading m.reading = .untyped := by
  obtain ⟨f, mem, type⟩ : ∃ f ∈ Family.group metrics, (f.name, f.type) = ("pg_x_b", .untyped) := by
    rw [← List.mem_map, types_of_group]
    simp
  obtain ⟨m, first, -, same, -⟩ := Family.isFirst_of_mem_group mem
  exact ⟨m, first, same.symm.trans (congrArg Prod.snd type)⟩

/-- A pass that gave metrics need not be written. -/
theorem not_render_of_valid_of_collected :
    ¬ ∀ (c : Config) (files : String → FileState) (x : Exporter), c.validate.isOk = true →
      Reachable backend c files x → ∀ (clock : PassClock) (w : World Unit) (metrics : List Metric),
        (x.collect backend clock w).1 = .ok metrics →
          ∃ text, (x.render backend clock w).1 = .ok text := by
  intro renders
  obtain ⟨text, written⟩ :=
    renders config _ exporter validate_config reachable clock world metrics collected
  rw [render_of_untyped (named_of_collect reachable collected) collected exists_untyped] at written
  cases written

/-- The second column aborts the pass. -/
theorem render_of_exporter :
    Reachable backend config (fun _ => file) exporter ∧
      (exporter.collect backend clock world).1 = .ok metrics ∧
      (exporter.render backend clock world).1 = .error (.render (.aborted .untypedFamily)) := by
  obtain ⟨m, first, untyped⟩ := exists_untyped
  have source := (untyped_iff_ofUnknownColumn reachable collected first.mem).mp untyped
  exact ⟨reachable, collected,
    (render_eq_ok_iff_known reachable collected).2.mpr ⟨m, first, source⟩⟩

end UnknownColumn

end Exporter

end PgMetrics
