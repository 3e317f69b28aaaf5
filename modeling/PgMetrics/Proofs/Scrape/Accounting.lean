import PgMetrics.Proofs.Scrape.Cells

/-!
# Every cell counts once

A result set is read cell by cell, row by row and in each row from left to right. Every cell that
stands both in a row and under a column gives one metric, one error, or nothing; and it gives
nothing only if its column is dropped or it says that a span is not set.

## Main definitions

* `ResultSet.cells` — the cells of a result set, in order.
* `Rule.Consistent` — rules whose flags, descriptor and conversion agree.
* `Schema.Convertible` — result sets on which no conversion aborts.

## Main results

* `Schema.convert_eq` — the batch of a result set, cell by cell.
* `Namespace.cells_are_accounted_for` — what every cell gives.
-/

namespace PgMetrics

/-- A value in a row, with the column that it stands under and the index of both. -/
structure Cell where
  row : List Value
  index : Nat
  column : String
  value : Value

namespace ResultSet

/-- The cells of a row: as many as there are both values and columns. -/
def cellsOf (r : ResultSet) (row : List Value) : List Cell :=
  (r.columns.zip row).zipIdx.map fun c => ⟨row, c.2, c.1.1, c.1.2⟩

/-- All cells, row by row. -/
def cells (r : ResultSet) : List Cell := r.rows.flatMap r.cellsOf

theorem map_index_cellsOf (r : ResultSet) (row : List Value) :
    (r.cellsOf row).map (fun c => (c.row, c.index)) =
      (List.range (min r.columns.length row.length)).map fun i => (row, i) := by
  have indices : (r.columns.zip row).zipIdx.map Prod.snd =
      List.range (min r.columns.length row.length) := by
    rw [List.zipIdx_map_snd, List.length_zip, List.range_eq_range']
  rw [← indices, cellsOf, List.map_map, List.map_map]
  rfl

/-- The cells are the pairs of a row and an index that both the row and the columns reach. -/
theorem map_index_cells (r : ResultSet) :
    r.cells.map (fun c => (c.row, c.index)) = r.rows.flatMap fun row =>
      (List.range (min r.columns.length row.length)).map fun i => (row, i) := by
  rw [cells, List.map_flatMap]
  simp only [map_index_cellsOf]

theorem getElem?_of_mem_cells {r : ResultSet} {c : Cell} (mem : c ∈ r.cells) :
    r.columns[c.index]? = some c.column ∧ c.row[c.index]? = some c.value := by
  obtain ⟨row, -, inRow⟩ := List.mem_flatMap.mp mem
  obtain ⟨pair, indexed, rfl⟩ := List.mem_map.mp inRow
  exact List.getElem?_zip_eq_some.mp (List.mem_zipIdx_iff_getElem?.mp indexed)

end ResultSet

/-! ## Cell by cell -/

namespace CellResult

def metric? : CellResult → Option Metric
  | .metric m => some m
  | _ => none

def error? : CellResult → Option ConversionError
  | .error e => some e
  | _ => none

end CellResult

theorem Batch.ofCells_eq (results : List CellResult) :
    Batch.ofCells results =
      ⟨results.filterMap CellResult.metric?, results.filterMap CellResult.error?⟩ := by
  induction results with
  | nil => rfl
  | cons c rest ih =>
    change (ofCell c).append (ofCells rest) = _
    rw [ih]
    cases c <;> rfl

namespace Schema

/-- What a cell of a result set gives. -/
def visitCell (s : Schema) (namespaceName : String) (r : ResultSet) (c : Cell) :
    Except Abort CellResult :=
  s.visit ⟨namespaceName, r, c.row, s.labelValues r c.row⟩ c.column c.value

theorem convertRow_eq (s : Schema) (namespaceName : String) (r : ResultSet) (row : List Value) :
    s.convertRow namespaceName r row = (r.cellsOf row).mapM (s.visitCell namespaceName r) := by
  have zipped : r.columns.zip row = (r.columns.zip row).zipIdx.map Prod.fst :=
    (List.zipIdx_map_fst 0 _).symm
  unfold convertRow
  rw [zipped, ResultSet.cellsOf, List.mapM_map, List.mapM_map]
  rfl

/-- A result set is converted cell by cell. -/
theorem convert_eq (s : Schema) (namespaceName : String) (r : ResultSet) :
    s.convert namespaceName r =
      (r.cells.mapM (s.visitCell namespaceName r)).map Batch.ofCells := by
  have rows : s.convertRow namespaceName r = fun row =>
      (r.cellsOf row).mapM (s.visitCell namespaceName r) :=
    funext (s.convertRow_eq namespaceName r)
  rw [ResultSet.cells, mapM_flatMap, ← rows]
  unfold convert
  cases r.rows.mapM (s.convertRow namespaceName r) <;> rfl

end Schema

/-! ## What decides on a cell -/

/-- A rule that keeps its column exports it, and by a conversion that reads numbers unless the
column starts a histogram. -/
structure Rule.Consistent (rule : Rule) : Prop where
  descriptor : rule.discard = false → ∃ d, rule.descriptor = some d
  reads : rule.discard = false → rule.histogram = false →
    rule.conversion ≠ .discard ∧ rule.conversion ≠ .histogram
  bounds : rule.histogram = true → rule.conversion = .histogram

theorem Namespace.consistent_ruleOf (describe : String → String → Descriptor) (name : String)
    (c : Column) : (ruleOf describe name c).Consistent := by
  unfold ruleOf
  cases c.usage <;> constructor <;> simp [Rule.dropped]

/-- Every rule of a compiled namespace is consistent. -/
theorem Namespace.consistent_of_compile {n : Namespace} {v : Version}
    {namespaceName stem : String} {constLabels : Dict String String} {column : String} {rule : Rule}
    (found : (n.compile v namespaceName stem constLabels).rules.get? column = some rule) :
    rule.Consistent := by
  have dropped : Rule.dropped.Consistent := by constructor <;> simp [Rule.dropped]
  cases declared : n.columns.get? column with
  | none =>
    rw [eq_dropped_of_undeclared (Dict.notMem_keys_iff.mpr declared) found]
    exact dropped
  | some c =>
    rw [compile_rules_of_declared _ _ _ _ _ declared] at found
    cases found
    unfold ownRule
    split
    · exact consistent_ruleOf _ _ _
    · exact dropped

theorem convertSpan_eq_skip_iff {label : String} :
    convertSpan label = .ok .skip ↔ label = unsetSpan := by
  unfold convertSpan
  constructor
  · intro skipped
    by_contra other
    rw [if_neg other] at skipped
    split at skipped <;> cases skipped
  · intro unset
    exact if_pos unset

/-- Only the text of a span that is not set is passed over. -/
theorem Conversion.apply_eq_skip_iff {c : Conversion} {value : Value} :
    c.apply value = .ok .skip ↔ c = .durationMillis ∧ value.label = unsetSpan := by
  cases c with
  | durationMillis => simp [apply, convertSpan_eq_skip_iff]
  | discard => simp [apply]
  | histogram => simp [apply]
  | numeric =>
    unfold apply
    cases value.number? <;> simp
  | mapped table =>
    unfold apply
    cases found : value.text?.bind table.get? <;> simp [found]

namespace Schema

variable {x : RowContext} {column : String} {rule : Rule} {value : Value}

/-- A column that is one number goes the way of its conversion. -/
theorem visitScalar_eq {d : Descriptor} (descriptor : rule.descriptor = some d) :
    visitScalar x column rule value = (rule.conversion.apply value).map fun
      | .value y => .metric (.scalar d rule.kind y x.labelValues)
      | .skip => .nothing
      | .failed shown => .error (.unparseable x.namespaceName column shown) := by
  unfold visitScalar
  rw [descriptor]
  dsimp only
  rcases rule.conversion.apply value with a | ⟨y | _ | shown⟩ <;> rfl

theorem visitScalar_eq_nothing_iff {d : Descriptor} (descriptor : rule.descriptor = some d) :
    visitScalar x column rule value = .ok .nothing ↔
      rule.conversion = .durationMillis ∧ value.label = unsetSpan := by
  rw [visitScalar_eq descriptor, ← Conversion.apply_eq_skip_iff]
  rcases rule.conversion.apply value with a | ⟨y | _ | shown⟩ <;> simp [Except.map]

theorem visitHistogram_ne_nothing {d : Descriptor} (descriptor : rule.descriptor = some d) :
    visitHistogram x column rule value ≠ .nothing := by
  unfold visitHistogram
  rw [descriptor]
  dsimp only
  split <;> simp

theorem visitUnknown_ne_nothing (s : Schema) :
    s.visitUnknown x column value ≠ .nothing := by
  unfold visitUnknown
  split <;> simp

/-- Nothing comes of a cell whose column is dropped, or that says that a span is not set, and
something of every other cell. -/
theorem visit_eq_nothing_iff {s : Schema}
    (consistent : ∀ rule, s.rules.get? column = some rule → rule.Consistent) :
    s.visit x column value = .ok .nothing ↔ ∃ rule, s.rules.get? column = some rule ∧
      (rule.discard = true ∨ rule.conversion = .durationMillis ∧ value.label = unsetSpan) := by
  cases found : s.rules.get? column with
  | none => simp [visit, found, visitUnknown_ne_nothing]
  | some rule =>
    obtain ⟨descriptor, -, bounds⟩ := consistent rule found
    simp only [visit, found, Option.some.injEq, exists_eq_left']
    cases dropped : rule.discard with
    | true => simp
    | false =>
      obtain ⟨d, descriptor⟩ := descriptor dropped
      cases histogram : rule.histogram with
      | true => simp [visitHistogram_ne_nothing descriptor, bounds histogram]
      | false => simpa using visitScalar_eq_nothing_iff descriptor

/-- A number that a cell gives is the numeric reading of its value, where nothing is said of the
column, or what the conversion of the column makes of the value. -/
theorem number_of_visit {s : Schema} {m : Metric} {kind : MetricKind} {y : Float}
    (consistent : ∀ rule, s.rules.get? column = some rule → rule.Consistent)
    (given : s.visit x column value = .ok (.metric m)) (reading : m.reading = .scalar kind y) :
    (s.rules.get? column = none ∧ value.number? = some y) ∨
      ∃ rule, s.rules.get? column = some rule ∧ rule.conversion ≠ .discard ∧
        rule.conversion.apply value = .ok (.value y) := by
  cases found : s.rules.get? column with
  | none =>
    refine .inl ⟨rfl, ?_⟩
    simp only [visit, found] at given
    unfold visitUnknown at given
    cases read : value.number? with
    | none => simp [read] at given
    | some z =>
      simp only [read, Except.ok.injEq, CellResult.metric.injEq] at given
      subst given
      cases reading
      rfl
  | some rule =>
    obtain ⟨descriptor, reads, -⟩ := consistent rule found
    refine .inr ⟨rule, rfl, ?_⟩
    obtain ⟨kept, d, exported, made⟩ := metric_of_visit found given
    cases histogram : rule.histogram with
    | true =>
      rw [histogram, if_pos rfl] at made
      obtain ⟨h, rfl⟩ := made
      cases reading
    | false =>
      refine ⟨(reads kept histogram).1, ?_⟩
      simp only [visit, found, kept, histogram, Bool.false_eq_true, ↓reduceIte,
        visitScalar_eq exported] at given
      rcases converted : rule.conversion.apply value with a | ⟨z | _ | shown⟩ <;>
        rw [converted] at given <;> cases given
      cases reading
      rfl

/-- Result sets on which no conversion aborts. -/
def Convertible (s : Schema) (r : ResultSet) : Prop :=
  ∀ c ∈ r.cells, ∀ rule ∈ s.rules.get? c.column, (rule.conversion.apply c.value).isOk

instance (s : Schema) (r : ResultSet) : Decidable (s.Convertible r) :=
  inferInstanceAs (Decidable (∀ c ∈ r.cells, ∀ rule ∈ s.rules.get? c.column, _))

theorem exists_visitCell {s : Schema} {r : ResultSet} (convertible : s.Convertible r)
    (namespaceName : String) {c : Cell} (mem : c ∈ r.cells) :
    ∃ result, s.visitCell namespaceName r c = .ok result := by
  unfold visitCell visit
  cases found : s.rules.get? c.column with
  | none => exact ⟨_, rfl⟩
  | some rule =>
    dsimp only
    split
    · exact ⟨_, rfl⟩
    split
    · exact ⟨_, rfl⟩
    unfold visitScalar
    have steady := convertible c mem rule found
    cases rule.descriptor with
    | none => exact ⟨_, rfl⟩
    | some d =>
      rcases converted : rule.conversion.apply c.value with a | ⟨y | _ | shown⟩
      · exact absurd converted (ne_error_of_isOk steady a)
      all_goals exact ⟨_, rfl⟩

end Schema

namespace Namespace

variable {n : Namespace} {v : Version} {namespaceName stem : String}
  {constLabels : Dict String String}

/-- The columns that are kept and read as spans are the declared span columns. -/
theorem durationMillis_iff {column : String} {rule : Rule}
    (found : (n.compile v namespaceName stem constLabels).rules.get? column = some rule)
    (kept : rule.discard = false) :
    rule.conversion = .durationMillis ↔
      ∃ c, n.columns.get? column = some c ∧ c.usage = .duration := by
  obtain ⟨c, declared, -, rfl⟩ := declared_of_compile_rules _ _ _ _ _ found kept
  simp only [declared, Option.some.injEq, exists_eq_left']
  cases usage : c.usage <;> simp [ruleOf, usage, Rule.dropped]

theorem visit_compile_eq_nothing_iff {x : RowContext} {column : String} {value : Value} :
    (n.compile v namespaceName stem constLabels).visit x column value = .ok .nothing ↔
      (∃ rule, (n.compile v namespaceName stem constLabels).rules.get? column = some rule ∧
        rule.discard = true) ∨
      (∃ c, n.columns.get? column = some c ∧ c.usage = .duration) ∧ value.label = unsetSpan := by
  rw [Schema.visit_eq_nothing_iff fun rule => consistent_of_compile]
  constructor
  · rintro ⟨rule, found, dropped | ⟨span, unset⟩⟩
    · exact .inl ⟨rule, found, dropped⟩
    · cases kept : rule.discard with
      | true => exact .inl ⟨rule, found, kept⟩
      | false => exact .inr ⟨(durationMillis_iff found kept).mp span, unset⟩
  · rintro (⟨rule, found, dropped⟩ | ⟨⟨c, declared, usage⟩, unset⟩)
    · exact ⟨rule, found, .inl dropped⟩
    · have found := compile_rules_of_declared n v namespaceName stem constLabels declared
      refine ⟨_, found, ?_⟩
      cases kept : (ownRule v (n.describe v namespaceName stem constLabels) column c).discard with
      | true => exact .inl rfl
      | false => exact .inr ⟨(durationMillis_iff found kept).mpr ⟨c, declared, usage⟩, unset⟩

/-- Every pair of a row and an index that both the row and the columns reach is a cell. Read row by
row, every cell gives one metric, one error or nothing, and that is all that a result set gives if
no conversion aborts. A cell gives nothing exactly if its column is dropped or it is a span that is
not set; and no number that is given is the one that a dropped column reads as. -/
theorem cells_are_accounted_for (n : Namespace) (v : Version) (namespaceName stem : String)
    (constLabels : Dict String String) (r : ResultSet)
    (convertible : (n.compile v namespaceName stem constLabels).Convertible r) :
    let s := n.compile v namespaceName stem constLabels
    (∃ results, s.convert namespaceName r = .ok
        ⟨results.filterMap CellResult.metric?, results.filterMap CellResult.error?⟩ ∧
      List.Forall₂ (fun c result => s.visitCell namespaceName r c = .ok result ∧
        (result = .nothing ↔
          (∃ rule, s.rules.get? c.column = some rule ∧ rule.discard = true) ∨
            (∃ d, n.columns.get? c.column = some d ∧ d.usage = .duration) ∧
              c.value.label = unsetSpan) ∧
        ∀ m kind y, result = .metric m → m.reading = .scalar kind y →
          (s.rules.get? c.column = none ∧ c.value.number? = some y) ∨
            ∃ rule, s.rules.get? c.column = some rule ∧ rule.conversion ≠ .discard ∧
              rule.conversion.apply c.value = .ok (.value y)) r.cells results) ∧
    (∀ c ∈ r.cells, r.columns[c.index]? = some c.column ∧ c.row[c.index]? = some c.value) ∧
    (r.cells.map fun c => (c.row, c.index)) = (r.rows.flatMap fun row =>
      (List.range (min r.columns.length row.length)).map fun i => (row, i)) ∧
    ∀ column rule, s.rules.get? column = some rule → rule.discard = false →
      rule.histogram = false → rule.conversion ≠ .discard ∧ rule.conversion ≠ .histogram := by
  intro s
  refine ⟨?_, fun c => ResultSet.getElem?_of_mem_cells, r.map_index_cells,
    fun column rule found => (consistent_of_compile found).reads⟩
  obtain ⟨results, visited⟩ := exists_mapM_of_forall fun c mem =>
    s.exists_visitCell convertible namespaceName mem
  refine ⟨results, ?_, (mapM_eq_ok.mp visited).imp fun c result given => ⟨given, ?_, ?_⟩⟩
  · rw [s.convert_eq, visited, ← Batch.ofCells_eq]
    rfl
  · rw [← visit_compile_eq_nothing_iff]
    constructor
    · rintro rfl
      exact given
    · intro nothing
      exact Except.ok.inj (given.symm.trans nothing)
  · rintro m kind y rfl reading
    exact Schema.number_of_visit (fun rule => consistent_of_compile) given reading

end Namespace

namespace Ragged

/-- A label, a gauge and a span. -/
def view : Namespace where
  columns := .ofList [
    ("slot", .plain .label "Slot"),
    ("size", .plain .gauge "Size"),
    ("age", .plain .duration "Age")]
  masterOnly := false
  cacheSeconds := 0

def schema : Schema := view.compile ⟨14, 0, 0⟩ "pg_x" "pg" .empty

/-- The gauge comes twice and nothing is said of the last column; the first row is too long and the
second too short. -/
def answer : ResultSet :=
  ⟨["slot", "size", "age", "size", "more"],
    [[.text "a", .int 1, .text "-1", .text "many", .int 2, .int 9], [.text "b", .int 3]]⟩

/-- Of seven cells three give a metric, one gives an error, and three give nothing. -/
theorem cells_of_answer :
    schema.Convertible answer ∧
      (∃ results : List CellResult, results.length = 7 ∧ schema.convert "pg_x" answer = .ok
        ⟨results.filterMap CellResult.metric?, results.filterMap CellResult.error?⟩) ∧
      (schema.convert "pg_x" answer).toOption.map
          (fun batch => (batch.metrics.map (·.name), batch.errors)) =
        some (["pg_x_size", "pg_x_more", "pg_x_size"], [.unparseable "pg_x" "size" "many"]) := by
  have convertible : schema.Convertible answer := by decide +kernel
  obtain ⟨⟨results, converted, visited⟩, -⟩ :=
    view.cells_are_accounted_for ⟨14, 0, 0⟩ "pg_x" "pg" .empty answer convertible
  exact ⟨convertible, ⟨results, visited.length_eq.symm, converted⟩, by decide +kernel⟩

end Ragged

end PgMetrics
