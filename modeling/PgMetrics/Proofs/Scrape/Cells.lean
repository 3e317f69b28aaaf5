import PgMetrics.Metric.Family
import PgMetrics.Proofs.Mapping.Rules
import PgMetrics.Proofs.Outcome
import PgMetrics.Scrape.Rows

/-!
# What a result set can give

Every metric of a result set comes from a cell. The column of the cell is declared and the version
has it, or nothing is said of the column; the labels of the metric are the label columns that the
version has.

## Main definitions

* `Namespace.Exports` — the metrics that a column can give on a version.
* `Namespace.exportedColumn`, `Namespace.columnType` — name and type of the metrics of a column.
-/

namespace PgMetrics

/-- The type of what a column of the usage gives. A label and a discarded column give nothing. -/
def Usage.type : Usage → FamilyType
  | .counter => .counter
  | .gauge | .mappedMetric | .duration => .gauge
  | .histogram => .histogram
  | .label | .discard => .untyped

/-- The metrics that a column can give on a version. A declared column gives them only if the
version has it, under the name and with the kind that its usage calls for. -/
inductive Namespace.Exports (n : Namespace) (v : Version) (namespaceName stem : String)
    (constLabels : Dict String String) (column : String) : Metric → Prop
  | unknown {x : Float} {labels : List String} (undeclared : n.columns.get? column = none)
      (unclaimed : ∀ c ∈ n.columns.toList, ¬ Claims c column)
      (width : labels.length = (n.labelColumns v).length) :
      Exports n v namespaceName stem constLabels column
        (.scalar (n.describe v namespaceName stem constLabels column
          ("Unknown metric from " ++ namespaceName)) .untyped x labels)
  | counter {c : Column} {x : Float} {labels : List String}
      (declared : n.columns.get? column = some c) (supported : c.isSupported v)
      (usage : c.usage = .counter) (width : labels.length = (n.labelColumns v).length) :
      Exports n v namespaceName stem constLabels column
        (.scalar (n.describe v namespaceName stem constLabels column c.description) .counter x
          labels)
  | gauge {c : Column} {x : Float} {labels : List String}
      (declared : n.columns.get? column = some c) (supported : c.isSupported v)
      (usage : c.usage = .gauge ∨ c.usage = .mappedMetric)
      (width : labels.length = (n.labelColumns v).length) :
      Exports n v namespaceName stem constLabels column
        (.scalar (n.describe v namespaceName stem constLabels column c.description) .gauge x labels)
  | duration {c : Column} {x : Float} {labels : List String}
      (declared : n.columns.get? column = some c) (supported : c.isSupported v)
      (usage : c.usage = .duration) (width : labels.length = (n.labelColumns v).length) :
      Exports n v namespaceName stem constLabels column
        (.scalar (n.describe v namespaceName stem constLabels (column ++ millisecondsEnding)
          c.description) .gauge x labels)
  | histogram {c : Column} {h : Histogram} {labels : List String}
      (declared : n.columns.get? column = some c) (supported : c.isSupported v)
      (usage : c.usage = .histogram) (width : labels.length = (n.labelColumns v).length) :
      Exports n v namespaceName stem constLabels column
        ⟨n.describe v namespaceName stem constLabels column c.description, labels, .histogram h⟩

namespace Namespace

variable {n : Namespace} {v : Version} {namespaceName stem : String}
  {constLabels : Dict String String} {column : String} {m : Metric}

/-! ## What the metrics of a column have in common -/

theorem Exports.supported (h : n.Exports v namespaceName stem constLabels column m) {c : Column}
    (declared : n.columns.get? column = some c) : c.isSupported v := by
  cases h with
  | unknown undeclared => simp [undeclared] at declared
  | counter declared' supported => simp_all
  | gauge declared' supported => simp_all
  | duration declared' supported => simp_all
  | histogram declared' supported => simp_all

theorem Exports.variableLabels (h : n.Exports v namespaceName stem constLabels column m) :
    m.descriptor.variableLabels = n.labelColumns v := by
  cases h <;> rfl

theorem Exports.fixedLabels (h : n.Exports v namespaceName stem constLabels column m) :
    m.descriptor.constLabels = constLabels := by
  cases h <;> rfl

theorem Exports.width (h : n.Exports v namespaceName stem constLabels column m) :
    m.labelValues.length = m.descriptor.variableLabels.length := by
  cases h <;> assumption

/-- The name of a column in the names of its metrics: a span is exported under an ending. -/
def exportedColumn (n : Namespace) (column : String) : String :=
  match n.columns.get? column with
  | some c => if c.usage = .duration then column ++ millisecondsEnding else column
  | none => column

theorem Exports.name_eq (h : n.Exports v namespaceName stem constLabels column m) :
    m.name = metricName stem namespaceName (n.exportedColumn column) := by
  have plain {c : Column} (declared : n.columns.get? column = some c)
      (other : c.usage ≠ .duration) : n.exportedColumn column = column := by
    simp [exportedColumn, declared, other]
  cases h with
  | unknown undeclared =>
    rw [exportedColumn, undeclared]
    rfl
  | counter declared supported usage =>
    rw [plain declared (by simp [usage])]
    rfl
  | gauge declared supported usage =>
    rw [plain declared (by rcases usage with usage | usage <;> simp [usage])]
    rfl
  | duration declared supported usage =>
    rw [exportedColumn, declared]
    dsimp only
    rw [if_pos usage]
    rfl
  | histogram declared supported usage =>
    rw [plain declared (by simp [usage])]
    rfl

/-- The type of the metrics of a column; a column that nothing is said of has none. -/
def columnType (n : Namespace) (column : String) : FamilyType :=
  match n.columns.get? column with
  | some c => c.usage.type
  | none => .untyped

theorem Exports.type_eq (h : n.Exports v namespaceName stem constLabels column m) :
    FamilyType.ofReading m.reading = n.columnType column := by
  unfold columnType
  cases h with
  | unknown undeclared =>
    rw [undeclared]
    rfl
  | gauge declared supported usage =>
    rw [declared]
    dsimp only
    rcases usage with usage | usage <;> rw [usage] <;> rfl
  | counter declared supported usage | duration declared supported usage
  | histogram declared supported usage =>
    rw [declared]
    dsimp only
    rw [usage]
    rfl

/-- Only a column that nothing is said of gives metrics without a type. -/
theorem Exports.undeclared_iff (h : n.Exports v namespaceName stem constLabels column m) :
    n.columns.get? column = none ↔ FamilyType.ofReading m.reading = .untyped := by
  cases h <;> simp_all [Metric.scalar, FamilyType.ofReading, FamilyType.ofKind]

end Namespace

/-! ## Where the metrics come from -/

namespace Batch

theorem mem_metrics_ofCells {cells : List CellResult} {m : Metric} :
    m ∈ (ofCells cells).metrics ↔ .metric m ∈ cells := by
  induction cells with
  | nil => simp [ofCells, empty]
  | cons c rest ih =>
    change m ∈ (ofCell c).metrics ++ (ofCells rest).metrics ↔ _
    rw [List.mem_append, ih, List.mem_cons]
    cases c <;> simp [ofCell, empty]

theorem mem_errors_ofCells {cells : List CellResult} {e : ConversionError} :
    e ∈ (ofCells cells).errors ↔ .error e ∈ cells := by
  induction cells with
  | nil => simp [ofCells, empty]
  | cons c rest ih =>
    change e ∈ (ofCell c).errors ++ (ofCells rest).errors ↔ _
    rw [List.mem_append, ih, List.mem_cons]
    cases c <;> simp [ofCell, empty]

end Batch

namespace Schema

theorem metric_of_visitScalar {x : RowContext} {column : String} {rule : Rule} {value : Value}
    {m : Metric} (h : visitScalar x column rule value = .ok (.metric m)) :
    ∃ d y, rule.descriptor = some d ∧ m = .scalar d rule.kind y x.labelValues := by
  unfold visitScalar at h
  cases descriptor : rule.descriptor with
  | none => simp [descriptor] at h
  | some d =>
    rw [descriptor] at h
    cases converted : rule.conversion.apply value with
    | error a => simp [converted] at h
    | ok outcome =>
      cases outcome with
      | value y =>
        refine ⟨d, y, rfl, ?_⟩
        simpa [converted] using h.symm
      | skip => simp [converted] at h
      | failed shown => simp [converted] at h

theorem metric_of_visitHistogram {x : RowContext} {column : String} {rule : Rule} {value : Value}
    {m : Metric} (h : visitHistogram x column rule value = .metric m) :
    ∃ d y, rule.descriptor = some d ∧ m = ⟨d, x.labelValues, .histogram y⟩ := by
  unfold visitHistogram at h
  cases descriptor : rule.descriptor with
  | none => simp [descriptor] at h
  | some d =>
    rw [descriptor] at h
    cases built : histogramOf x column value with
    | error e => simp [built] at h
    | ok y =>
      refine ⟨d, y, rfl, ?_⟩
      simpa [built] using h.symm

theorem metric_of_visitUnknown {s : Schema} {x : RowContext} {column : String} {value : Value}
    {m : Metric} (h : s.visitUnknown x column value = .metric m) :
    ∃ y, m = .scalar (s.unknownDescriptor x.namespaceName column) .untyped y x.labelValues := by
  unfold visitUnknown at h
  cases read : value.number? with
  | none => simp [read] at h
  | some y =>
    refine ⟨y, ?_⟩
    simpa [read] using h.symm

/-- A column with a rule that is not dropped gives one number of its kind, or a histogram. -/
theorem metric_of_visit {s : Schema} {x : RowContext} {column : String} {value : Value} {m : Metric}
    {rule : Rule} (found : s.rules.get? column = some rule)
    (h : s.visit x column value = .ok (.metric m)) :
    rule.discard = false ∧ ∃ d, rule.descriptor = some d ∧
      if rule.histogram then ∃ y, m = ⟨d, x.labelValues, .histogram y⟩
      else ∃ y, m = .scalar d rule.kind y x.labelValues := by
  simp only [visit, found] at h
  split at h
  case isTrue => cases h
  case isFalse kept =>
    refine ⟨by simpa using kept, ?_⟩
    split at h
    case isTrue histogram =>
      obtain ⟨d, y, descriptor, rfl⟩ := metric_of_visitHistogram (Except.ok.inj h)
      refine ⟨d, descriptor, ?_⟩
      rw [if_pos histogram]
      exact ⟨y, rfl⟩
    case isFalse scalar =>
      obtain ⟨d, y, descriptor, rfl⟩ := metric_of_visitScalar h
      refine ⟨d, descriptor, ?_⟩
      rw [if_neg scalar]
      exact ⟨y, rfl⟩

theorem exports_of_visit {n : Namespace} {v : Version} {stem : String}
    {constLabels : Dict String String} {x : RowContext} {column : String} {value : Value}
    {m : Metric} (width : x.labelValues.length = (n.labelColumns v).length)
    (h : (n.compile v x.namespaceName stem constLabels).visit x column value = .ok (.metric m)) :
    n.Exports v x.namespaceName stem constLabels column m := by
  cases found : (n.compile v x.namespaceName stem constLabels).rules.get? column with
  | none =>
    simp only [visit, found] at h
    obtain ⟨y, rfl⟩ := metric_of_visitUnknown (Except.ok.inj h)
    cases declared : n.columns.get? column with
    | some c => simp [Namespace.compile_rules_of_declared _ _ _ _ _ declared] at found
    | none =>
      rw [Namespace.compile_rules_of_undeclared _ _ _ _ _ declared] at found
      exact .unknown declared (by simpa using found) width
  | some rule =>
    obtain ⟨kept, d, descriptor, made⟩ := metric_of_visit found h
    obtain ⟨c, declared, supported, rfl⟩ :=
      Namespace.declared_of_compile_rules _ _ _ _ _ found kept
    cases usage : c.usage
    case discard => simp [Namespace.ruleOf, usage, Rule.dropped] at kept
    case label => simp [Namespace.ruleOf, usage, Rule.dropped] at kept
    all_goals
      simp only [Namespace.ruleOf, usage, Option.some.injEq, Bool.false_eq_true, ↓reduceIte]
        at descriptor made
      obtain ⟨y, rfl⟩ := made
      subst descriptor
    case counter => exact .counter declared supported usage width
    case gauge => exact .gauge declared supported (.inl usage) width
    case mappedMetric => exact .gauge declared supported (.inr usage) width
    case duration => exact .duration declared supported usage width
    case histogram => exact .histogram declared supported usage width

/-- What a result set gives is what its cells give. -/
theorem exists_cells_of_convert {s : Schema} {namespaceName : String} {result : ResultSet}
    {batch : Batch} (h : s.convert namespaceName result = .ok batch) :
    ∃ cells, batch = .ofCells cells ∧ ∀ cell ∈ cells, ∃ row ∈ result.rows,
      ∃ c ∈ result.columns.zip row,
        s.visit ⟨namespaceName, result, row, s.labelValues result row⟩ c.1 c.2 = .ok cell := by
  obtain ⟨rows, converted, done⟩ := bind_eq_ok.mp h
  cases done
  refine ⟨rows.flatten, rfl, fun cell mem => ?_⟩
  obtain ⟨cells, memCells, memRow⟩ := List.mem_flatten.mp mem
  obtain ⟨row, memRows, hrow⟩ := exists_of_mem_mapM converted memCells
  obtain ⟨c, memZip, visited⟩ := exists_of_mem_mapM hrow memRow
  exact ⟨row, memRows, c, memZip, visited⟩

/-- Every metric of a result set is one that a column of it can give. -/
theorem exports_of_mem_convert {n : Namespace} {v : Version} {namespaceName stem : String}
    {constLabels : Dict String String} {result : ResultSet} {batch : Batch} {m : Metric}
    (h : (n.compile v namespaceName stem constLabels).convert namespaceName result = .ok batch)
    (mem : m ∈ batch.metrics) :
    ∃ column ∈ result.columns, n.Exports v namespaceName stem constLabels column m := by
  obtain ⟨cells, rfl, visited⟩ := exists_cells_of_convert h
  obtain ⟨row, -, c, memZip, given⟩ := visited _ (Batch.mem_metrics_ofCells.mp mem)
  exact ⟨c.1, (List.of_mem_zip memZip).1,
    exports_of_visit (x := ⟨namespaceName, result, row, _⟩) (List.length_map _) given⟩

end Schema

end PgMetrics
