import PgMetrics.Proofs.Scrape.Cells

/-!
# Columns that a version does not have

A column that is dropped can still be read: a label column gives the labels of its row, and the
columns named after a histogram column feed the histogram. The other dropped columns are ignored.
Their cells may hold anything, and nothing that a result set gives comes from them, carries them as
a label or names them.

## Main definitions

* `Namespace.Feeds` — the columns from which histograms are put together.
* `Namespace.Ignored` — the dropped columns that are not read.
* `ResultSet.SameOutside` — result sets that differ in the cells of some columns only.
-/

namespace PgMetrics

namespace Namespace

/-- The columns from which a histogram of the version is put together, by their names. -/
def Feeds (n : Namespace) (v : Version) (name : String) : Prop :=
  ∃ c ∈ n.columns.toList, c.2.isSupported v ∧ Claims c name

instance (n : Namespace) (v : Version) (name : String) : Decidable (n.Feeds v name) :=
  inferInstanceAs (Decidable (∃ c ∈ n.columns.toList, c.2.isSupported v ∧ Claims c name))

/-- The columns that are dropped, are no labels and feed no histogram. -/
structure Ignored (n : Namespace) (v : Version) (namespaceName stem : String)
    (constLabels : Dict String String) (column : String) : Prop where
  dropped : ∃ rule, (n.compile v namespaceName stem constLabels).rules.get? column = some rule ∧
    rule.discard
  notLabel : column ∉ n.labelColumns v
  notFed : ¬ n.Feeds v column

end Namespace

/-- The column that an error is about. -/
def ConversionError.column : ConversionError → String
  | .unparseable _ column _ => column
  | .unknownColumn _ column _ => column
  | .missingColumn _ column => column
  | .bucketMismatch _ column _ _ => column

namespace ResultSet

variable (ignored : String → Prop)

/-- Rows under the same columns that differ in the cells of the ignored ones only. -/
structure SameRow (columns : List String) (row row' : List Value) : Prop where
  length : row'.length = row.length
  cells : ∀ i : Nat, (∀ column, columns[i]? = some column → ¬ ignored column) → row'[i]? = row[i]?

/-- Result sets that differ in the cells of the ignored columns only. -/
structure SameOutside (r r' : ResultSet) : Prop where
  columns : r'.columns = r.columns
  rows : List.Forall₂ (SameRow ignored r.columns) r.rows r'.rows

end ResultSet

/-- Rows of which everything but the ignored columns is read alike. -/
structure RowContext.SameOutside (ignored : String → Prop) (x y : RowContext) : Prop where
  namespaceName : y.namespaceName = x.namespaceName
  labelValues : y.labelValues = x.labelValues
  cell? : ∀ name, ¬ ignored name → y.cell? name = x.cell? name

/-! ## What is read of a row -/

section Reading

variable {ignored : String → Prop}

theorem ResultSet.columns_of_columnIndex? {r : ResultSet} {name : String} {i : Nat}
    (h : r.columnIndex? name = some i) : r.columns[i]? = some name := by
  obtain ⟨bound, found, -⟩ := List.findIdx?_eq_some_iff_getElem.mp h
  rw [List.getElem?_eq_getElem bound]
  simpa using found

/-- A column that is not ignored is found with the same value. -/
theorem ResultSet.SameRow.bind_columnIndex? {r r' : ResultSet} {row row' : List Value}
    (h : SameRow ignored r.columns row row') (columns : r'.columns = r.columns) {name : String}
    (kept : ¬ ignored name) :
    ((r'.columnIndex? name).bind fun i => row'[i]?) =
      (r.columnIndex? name).bind fun i => row[i]? := by
  rw [show r'.columnIndex? name = r.columnIndex? name by simp [columnIndex?, columns]]
  cases index : r.columnIndex? name with
  | none => rfl
  | some i =>
    have column := columns_of_columnIndex? index
    refine h.cells i fun other same => ?_
    rw [column] at same
    cases same
    exact kept

theorem histogramOf_congr {x y : RowContext} (h : x.SameOutside ignored y) {column : String}
    (fed : ∀ ending ∈ histogramEndings, ¬ ignored (column ++ ending)) (bounds : Value) :
    histogramOf y column bounds = histogramOf x column bounds := by
  have demand {α : Type} (name : String) (value : Value) (reading : Option α) :
      y.demand name value reading = x.demand name value reading := by
    simp [RowContext.demand, h.namespaceName]
  have require {ending : String} (mem : ending ∈ histogramEndings) :
      y.require (column ++ ending) = x.require (column ++ ending) := by
    simp [RowContext.require, h.namespaceName, h.cell? _ (fed ending mem)]
  have bucket := @require "_bucket" (by decide)
  have sum := @require "_sum" (by decide)
  have count := @require "_count" (by decide)
  simp only [histogramOf, demand, h.namespaceName, bucket, sum, count]

theorem RowContext.column_of_demand {α : Type} {x : RowContext} {column : String} {value : Value}
    {reading : Option α} {e : ConversionError} (h : x.demand column value reading = .error e) :
    e.column = column := by
  cases reading <;> cases h
  rfl

theorem RowContext.column_of_require {x : RowContext} {column : String} {e : ConversionError}
    (h : x.require column = .error e) : e.column = column := by
  unfold require at h
  split at h <;> cases h
  rfl

/-- An error of a histogram is about its column or about one that is named after it. -/
theorem column_of_histogramOf {x : RowContext} {column : String} {bounds : Value}
    {e : ConversionError} (h : histogramOf x column bounds = .error e) :
    e.column ∈ column :: histogramEndings.map (column ++ ·) := by
  unfold histogramOf at h
  rcases bind_eq_error.mp h with h | ⟨keys, -, h⟩
  · simp [RowContext.column_of_demand h]
  rcases bind_eq_error.mp h with h | ⟨bucketValue, -, h⟩
  · simp [RowContext.column_of_require h, histogramEndings]
  rcases bind_eq_error.mp h with h | ⟨counts, -, h⟩
  · simp [RowContext.column_of_demand h, histogramEndings]
  rcases bind_eq_error.mp h with h | ⟨sumValue, -, h⟩
  · simp [RowContext.column_of_require h, histogramEndings]
  rcases bind_eq_error.mp h with h | ⟨sum, -, h⟩
  · simp [RowContext.column_of_demand h, histogramEndings]
  rcases bind_eq_error.mp h with h | ⟨countValue, -, h⟩
  · simp [RowContext.column_of_require h, histogramEndings]
  rcases bind_eq_error.mp h with h | ⟨count, -, h⟩
  · simp [RowContext.column_of_demand h, histogramEndings]
  split at h
  · cases h
    exact List.mem_cons_self
  · rcases bind_eq_error.mp h with h | ⟨numbers, -, h⟩
    · simp [RowContext.column_of_demand h, histogramEndings]
    · cases h

end Reading

/-! ## What the ignored columns give -/

section Compiled

variable {n : Namespace} {v : Version} {namespaceName stem : String}
  {constLabels : Dict String String}

theorem Namespace.feeds_of_histogram {column : String} {rule : Rule}
    (found : (n.compile v namespaceName stem constLabels).rules.get? column = some rule)
    (kept : rule.discard = false) (histogram : rule.histogram) {ending : String}
    (mem : ending ∈ histogramEndings) : n.Feeds v (column ++ ending) := by
  obtain ⟨c, declared, supported, rfl⟩ := declared_of_compile_rules _ _ _ _ _ found kept
  have usage : c.usage = .histogram := by
    cases usage : c.usage <;> simp [ruleOf, usage, Rule.dropped] at histogram ⊢
  exact ⟨(column, c), Dict.get?_eq_some_iff.mp declared, supported, usage,
    List.mem_map_of_mem mem⟩

namespace Schema

theorem visit_of_ignored {column : String}
    (h : n.Ignored v namespaceName stem constLabels column) (x : RowContext) (value : Value) :
    (n.compile v namespaceName stem constLabels).visit x column value = .ok .nothing := by
  obtain ⟨rule, found, dropped⟩ := h.dropped
  simp [visit, found, dropped]

/-- What a cell gives depends on the columns that are not ignored. -/
theorem visit_congr {x y : RowContext}
    (h : x.SameOutside (n.Ignored v namespaceName stem constLabels) y) (column : String)
    (value : Value) :
    (n.compile v namespaceName stem constLabels).visit y column value =
      (n.compile v namespaceName stem constLabels).visit x column value := by
  cases found : (n.compile v namespaceName stem constLabels).rules.get? column with
  | none => simp [visit, visitUnknown, found, h.namespaceName, h.labelValues]
  | some rule =>
    simp only [visit, found]
    split
    case isTrue => rfl
    case isFalse kept =>
      split
      case isTrue histogram =>
        have fed : ∀ ending ∈ histogramEndings,
            ¬ n.Ignored v namespaceName stem constLabels (column ++ ending) :=
          fun ending mem ignored =>
            ignored.notFed (n.feeds_of_histogram found (by simpa using kept) histogram mem)
        simp [visitHistogram, histogramOf_congr h fed, h.labelValues]
      case isFalse => simp [visitScalar, h.namespaceName, h.labelValues]

section Rows

variable {r r' : ResultSet} {row row' : List Value}

theorem labelValues_congr (columns : r'.columns = r.columns)
    (h : ResultSet.SameRow (n.Ignored v namespaceName stem constLabels) r.columns row row') :
    (n.compile v namespaceName stem constLabels).labelValues r' row' =
      (n.compile v namespaceName stem constLabels).labelValues r row := by
  refine List.map_congr_left fun label mem => ?_
  rw [h.bind_columnIndex? columns fun ignored => ignored.notLabel mem]

theorem convertRow_congr (columns : r'.columns = r.columns)
    (h : ResultSet.SameRow (n.Ignored v namespaceName stem constLabels) r.columns row row')
    (name : String) :
    (n.compile v namespaceName stem constLabels).convertRow name r' row' =
      (n.compile v namespaceName stem constLabels).convertRow name r row := by
  have same : RowContext.SameOutside (n.Ignored v namespaceName stem constLabels)
      ⟨name, r, row, (n.compile v namespaceName stem constLabels).labelValues r row⟩
      ⟨name, r', row', (n.compile v namespaceName stem constLabels).labelValues r' row'⟩ :=
    ⟨rfl, labelValues_congr columns h, fun column kept => h.bind_columnIndex? columns kept⟩
  refine mapM_congr_forall₂ (List.forall₂_iff_get.mpr ⟨?_, fun i bound' bound => ?_⟩)
  · simp [columns, h.length]
  · obtain ⟨inColumns, inRow⟩ : i < r.columns.length ∧ i < row.length := by
      simpa [Nat.lt_min] using bound
    have inRow' : i < row'.length := h.length ▸ inRow
    simp only [List.get_eq_getElem, List.getElem_zip, columns, visit_congr same]
    by_cases ignored : n.Ignored v namespaceName stem constLabels (r.columns.get ⟨i, inColumns⟩)
    · -- the cell may have changed, but nothing is made of it
      exact (visit_of_ignored ignored _ _).trans (visit_of_ignored ignored _ _).symm
    · have cell : row'[i]? = row[i]? := h.cells i fun column found => by
        rw [List.getElem?_eq_getElem inColumns] at found
        cases found
        exact ignored
      rw [List.getElem?_eq_getElem inRow, List.getElem?_eq_getElem inRow',
        Option.some.injEq] at cell
      rw [cell]

/-- What a result set gives does not depend on the cells of ignored columns. -/
theorem convert_congr (name : String)
    (h : ResultSet.SameOutside (n.Ignored v namespaceName stem constLabels) r r') :
    (n.compile v namespaceName stem constLabels).convert name r' =
      (n.compile v namespaceName stem constLabels).convert name r := by
  have rows := mapM_congr_forall₂ (h.rows.flip.imp fun row' row same =>
    convertRow_congr h.columns same name)
  simp only [convert, rows]

end Rows

/-! ## Where metrics and errors come from -/

theorem column_of_visitUnknown {s : Schema} {x : RowContext} {column : String} {value : Value}
    {e : ConversionError} (h : s.visitUnknown x column value = .error e) : e.column = column := by
  unfold visitUnknown at h
  cases read : value.number? <;> rw [read] at h <;> cases h
  rfl

theorem column_of_visitScalar {x : RowContext} {column : String} {rule : Rule} {value : Value}
    {e : ConversionError} (h : visitScalar x column rule value = .ok (.error e)) :
    e.column = column := by
  unfold visitScalar at h
  split at h
  · cases h
  · split at h <;> cases h
    rfl

theorem column_of_visitHistogram {x : RowContext} {column : String} {rule : Rule} {value : Value}
    {e : ConversionError} (h : visitHistogram x column rule value = .error e) :
    e.column ∈ column :: histogramEndings.map (column ++ ·) := by
  unfold visitHistogram at h
  split at h
  · cases h
  · cases built : histogramOf x column value with
    | ok y => simp [built] at h
    | error e' =>
      simp only [built, CellResult.error.injEq] at h
      exact column_of_histogramOf (h ▸ built)

/-- An error is about the column of its cell or about one that feeds a histogram. -/
theorem column_of_visit {x : RowContext} {column : String} {value : Value} {e : ConversionError}
    (h : (n.compile v namespaceName stem constLabels).visit x column value = .ok (.error e)) :
    e.column = column ∨ n.Feeds v e.column := by
  cases found : (n.compile v namespaceName stem constLabels).rules.get? column with
  | none =>
    simp only [visit, found] at h
    exact .inl (column_of_visitUnknown (Except.ok.inj h))
  | some rule =>
    simp only [visit, found] at h
    split at h
    case isTrue => cases h
    case isFalse kept =>
      split at h
      case isTrue histogram =>
        rcases List.mem_cons.mp (column_of_visitHistogram (Except.ok.inj h)) with own | named
        · exact .inl own
        · obtain ⟨ending, mem, same⟩ := List.mem_map.mp named
          rw [← same]
          exact .inr (n.feeds_of_histogram found (by simpa using kept) histogram mem)
      case isFalse => exact .inl (column_of_visitScalar h)

/-- No error is about an ignored column. -/
theorem not_ignored_of_mem_errors {result : ResultSet} {batch : Batch} {e : ConversionError}
    (h : (n.compile v namespaceName stem constLabels).convert namespaceName result = .ok batch)
    (mem : e ∈ batch.errors) : ¬ n.Ignored v namespaceName stem constLabels e.column := by
  obtain ⟨cells, rfl, visited⟩ := exists_cells_of_convert h
  obtain ⟨row, -, c, -, given⟩ := visited _ (Batch.mem_errors_ofCells.mp mem)
  intro ignored
  rcases column_of_visit given with own | fed
  · rw [own] at ignored
    rw [visit_of_ignored ignored] at given
    cases given
  · exact ignored.notFed fed

end Schema

namespace Namespace

/-- No metric comes from an ignored column. -/
theorem Exports.not_ignored {column : String} {m : Metric}
    (h : n.Exports v namespaceName stem constLabels column m) :
    ¬ n.Ignored v namespaceName stem constLabels column := by
  rintro ⟨⟨rule, found, dropped⟩, -, -⟩
  have kept {c : Column} (declared : n.columns.get? column = some c) (supported : c.isSupported v)
      (usage : c.usage ≠ .label ∧ c.usage ≠ .discard) : False := by
    rw [compile_rules_of_declared _ _ _ _ _ declared, ownRule, if_pos supported] at found
    cases found
    cases other : c.usage <;> simp_all [ruleOf]
  cases h with
  | unknown undeclared unclaimed =>
    have none : ¬ ∃ c ∈ n.columns.toList, Claims c column := by
      rintro ⟨c, mem, claims⟩
      exact unclaimed c mem claims
    rw [compile_rules_of_undeclared _ _ _ _ _ undeclared, if_neg none] at found
    cases found
  | counter declared supported usage => exact kept declared supported (by simp [usage])
  | gauge declared supported usage => exact kept declared supported (by grind)
  | duration declared supported usage => exact kept declared supported (by simp [usage])
  | histogram declared supported usage => exact kept declared supported (by simp [usage])

/-! ## Columns that the version does not have -/

variable {column : String} {c : Column}

theorem ignored_of_not_isSupported (declared : n.columns.get? column = some c)
    (unsupported : c.isSupported v = false) (notFed : ¬ n.Feeds v column) :
    n.Ignored v namespaceName stem constLabels column where
  dropped := by
    rw [compile_rules_of_declared _ _ _ _ _ declared]
    simp [ownRule, unsupported, Rule.dropped]
  notLabel := by
    rw [mem_labelColumns]
    rintro ⟨c', declared', -, supported⟩
    simp_all
  notFed := notFed

theorem ignored_of_histogram (declared : n.columns.get? column = some c)
    (usage : c.usage = .histogram) {ending : String} (mem : ending ∈ histogramEndings)
    (undeclared : n.columns.get? (column ++ ending) = none)
    (notFed : ¬ n.Feeds v (column ++ ending)) :
    n.Ignored v namespaceName stem constLabels (column ++ ending) where
  dropped := by
    have claimed : ∃ c ∈ n.columns.toList, Claims c (column ++ ending) :=
      ⟨(column, c), Dict.get?_eq_some_iff.mp declared, usage, List.mem_map_of_mem mem⟩
    rw [compile_rules_of_undeclared _ _ _ _ _ undeclared, if_pos claimed]
    exact ⟨_, rfl, rfl⟩
  notLabel := by
    rw [mem_labelColumns]
    rintro ⟨c', declared', -⟩
    simp_all
  notFed := notFed

end Namespace

end Compiled

/-- The cells of ignored columns have no influence: with other cells there a result set converts to
the same, or aborts alike; they give nothing; no metric comes from such a column or has it as a
label, and no error is about it. A column that the version does not have is ignored unless it feeds
a histogram that the version has, and so are the columns that belong to it. -/
theorem Namespace.ignored_columns_are_inert (n : Namespace) (v : Version)
    (namespaceName stem : String) (constLabels : Dict String String) (r : ResultSet) :
    let s := n.compile v namespaceName stem constLabels
    let ignored := n.Ignored v namespaceName stem constLabels
    (∀ r', ResultSet.SameOutside ignored r r' →
      s.convert namespaceName r' = s.convert namespaceName r) ∧
    (∀ x column value, ignored column → s.visit x column value = .ok .nothing) ∧
    (∀ batch, s.convert namespaceName r = .ok batch →
      (∀ m ∈ batch.metrics,
        (∃ column ∈ r.columns, ¬ ignored column ∧
          n.Exports v namespaceName stem constLabels column m) ∧
        ∀ label ∈ m.descriptor.variableLabels, ¬ ignored label) ∧
      ∀ e ∈ batch.errors, ¬ ignored e.column) ∧
    (∀ column c, n.columns.get? column = some c → c.isSupported v = false →
      (¬ n.Feeds v column → ignored column) ∧
      (c.usage = .histogram → ∀ ending ∈ histogramEndings,
        n.columns.get? (column ++ ending) = none → ¬ n.Feeds v (column ++ ending) →
          ignored (column ++ ending))) := by
  refine ⟨fun r' same => Schema.convert_congr _ same,
    fun x column value ignored => Schema.visit_of_ignored ignored x value, fun batch given => ?_,
    fun column c declared unsupported => ⟨?_, ?_⟩⟩
  · refine ⟨fun m mem => ?_, fun e mem => Schema.not_ignored_of_mem_errors given mem⟩
    obtain ⟨column, memColumn, exports⟩ := Schema.exports_of_mem_convert given mem
    refine ⟨⟨column, memColumn, exports.not_ignored, exports⟩, fun label isLabel ignored => ?_⟩
    rw [exports.variableLabels] at isLabel
    exact ignored.notLabel isLabel
  · exact ignored_of_not_isSupported declared unsupported
  · intro usage ending mem undeclared notFed
    exact ignored_of_histogram declared usage mem undeclared notFed

namespace OlderRelease

/-- A label, a histogram and a column of an older histogram, all of which came with release 14, and
a gauge. -/
def view : Namespace where
  columns := .ofList [
    ("slot", ⟨.label, "Slot", none, some (VersionRange.atLeast ⟨14, 0, 0⟩)⟩),
    ("lag", ⟨.histogram, "Lag", none, some (VersionRange.atLeast ⟨14, 0, 0⟩)⟩),
    ("wait", .plain .histogram "Wait"),
    ("wait_sum", ⟨.gauge, "Sum", none, some (VersionRange.atLeast ⟨14, 0, 0⟩)⟩),
    ("size", .plain .gauge "Size")]
  masterOnly := false
  cacheSeconds := 0

/-- The release before. -/
def release : Version := ⟨13, 0, 0⟩

/-- The columns that the release ignores. -/
def Ignored (column : String) : Prop := view.Ignored release "pg_x" "pg" .empty column

/-- The schema of the release. -/
def schema : Schema := view.compile release "pg_x" "pg" .empty

/-- A row with these values in columns that the release does not have. -/
def answer (slot lagSum : Value) : ResultSet :=
  ⟨["slot", "lag_sum", "size"], [[slot, lagSum, .int 1]]⟩

theorem sameOutside_answer {slot lagSum : Value} (ignoredSlot : Ignored "slot")
    (ignoredSum : Ignored "lag_sum") :
    ResultSet.SameOutside Ignored (answer .null .null) (answer slot lagSum) := by
  refine ⟨rfl, .cons ⟨rfl, fun i kept => ?_⟩ .nil⟩
  match i with
  | 0 => exact absurd ignoredSlot (kept _ rfl)
  | 1 => exact absurd ignoredSum (kept _ rfl)
  | _ + 2 => rfl

/-- Whatever stands in the columns that came later, the size is given, without a label. -/
theorem convert_of_changed :
    (Ignored "slot" ∧ Ignored "lag_sum" ∧ ¬ Ignored "wait_sum") ∧
      schema.convert "pg_x" (answer (.text "a") (.int 7)) =
        schema.convert "pg_x" (answer .null .null) ∧
      (schema.convert "pg_x" (answer .null .null)).toOption.map
          (fun batch => (batch.metrics.map fun m => (m.name, m.labelValues), batch.errors)) =
        some ([("pg_x_size", [])], []) := by
  obtain ⟨same, -, -, later⟩ := view.ignored_columns_are_inert release "pg_x" "pg" .empty
    (answer .null .null)
  have slot : Ignored "slot" := (later "slot" _ rfl rfl).1 (by decide +kernel)
  have sum : Ignored "lag_sum" :=
    (later "lag" _ rfl rfl).2 rfl "_sum" (by decide) rfl (by decide +kernel)
  refine ⟨⟨slot, sum, fun ignored => ignored.notFed (by decide +kernel)⟩,
    same _ (sameOutside_answer slot sum), by decide +kernel⟩

end OlderRelease

end PgMetrics
