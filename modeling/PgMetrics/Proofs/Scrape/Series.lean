import PgMetrics.Proofs.Metric.Names
import PgMetrics.Proofs.Scrape.Accounting

/-!
# Series that a result set gives twice

Within a namespace the name of a metric tells the column, but for one ending: a span is exported in
milliseconds, and a column that is no span may be named like that. If rows differ in their labels
and columns in their names, a result set gives a series twice only where a row has both.

## Main definitions

* `Namespace.MeetsSpan` — a span and a column named like its milliseconds.

## Main results

* `Schema.exists_sources` — the cells that the metrics come from.
* `Namespace.series_repeat_iff_meets_span` — when two metrics are of one series.
-/

namespace PgMetrics

namespace Namespace

/-- A column that is declared as a span. -/
def IsSpan (n : Namespace) (c : String) : Prop :=
  ∃ column, n.columns.get? c = some column ∧ column.usage = .duration

/-- The column `c` is a span that the version has, and `d` is named like its milliseconds and is no
span. -/
structure MeetsSpan (n : Namespace) (v : Version) (c d : String) : Prop where
  span : ∃ column, n.columns.get? c = some column ∧ column.usage = .duration ∧ column.isSupported v
  named : d = c ++ millisecondsEnding
  other : ¬ n.IsSpan d

variable {n : Namespace} {v : Version} {c d : String}

/-! ## Names -/

theorem exportedColumn_of_isSpan (h : n.IsSpan c) :
    n.exportedColumn c = c ++ millisecondsEnding := by
  obtain ⟨column, declared, usage⟩ := h
  simp [exportedColumn, declared, usage]

theorem exportedColumn_of_not_isSpan (h : ¬ n.IsSpan c) : n.exportedColumn c = c := by
  unfold exportedColumn
  split
  case h_1 column declared => exact if_neg fun usage => h ⟨column, declared, usage⟩
  case h_2 => rfl

theorem MeetsSpan.isSpan (h : n.MeetsSpan v c d) : n.IsSpan c := by
  obtain ⟨column, declared, usage, -⟩ := h.span
  exact ⟨column, declared, usage⟩

/-- The columns of a clash are exported under one name. -/
theorem MeetsSpan.exportedColumn_eq (h : n.MeetsSpan v c d) :
    n.exportedColumn c = n.exportedColumn d := by
  rw [exportedColumn_of_isSpan h.isSpan, exportedColumn_of_not_isSpan h.other, h.named]

/-- Of two columns of one exported name one is a span, and the other is named like its
milliseconds. -/
theorem meetsSpan_of_exportedColumn_eq (ne : c ≠ d)
    (hc : ∀ column, n.columns.get? c = some column → column.isSupported v)
    (hd : ∀ column, n.columns.get? d = some column → column.isSupported v)
    (same : n.exportedColumn c = n.exportedColumn d) :
    n.MeetsSpan v c d ∨ n.MeetsSpan v d c := by
  by_cases spanC : n.IsSpan c <;> by_cases spanD : n.IsSpan d
  · -- both names have the ending, so the columns would be one
    rw [exportedColumn_of_isSpan spanC, exportedColumn_of_isSpan spanD] at same
    exact absurd ((String.append_left_inj _).mp same) ne
  · rw [exportedColumn_of_isSpan spanC, exportedColumn_of_not_isSpan spanD] at same
    obtain ⟨column, declared, usage⟩ := spanC
    exact .inl ⟨⟨column, declared, usage, hc column declared⟩, same.symm, spanD⟩
  · rw [exportedColumn_of_not_isSpan spanC, exportedColumn_of_isSpan spanD] at same
    obtain ⟨column, declared, usage⟩ := spanD
    exact .inr ⟨⟨column, declared, usage, hd column declared⟩, same, spanC⟩
  · rw [exportedColumn_of_not_isSpan spanC, exportedColumn_of_not_isSpan spanD] at same
    exact absurd same ne

end Namespace

/-! ## Cells -/

namespace ResultSet

theorem row_mem_of_mem_cells {r : ResultSet} {c : Cell} (mem : c ∈ r.cells) : c.row ∈ r.rows := by
  obtain ⟨row, inRows, inRow⟩ := List.mem_flatMap.mp mem
  obtain ⟨pair, -, rfl⟩ := List.mem_map.mp inRow
  exact inRows

/-- Cells differ in their row or in their index, if no row comes twice. -/
theorem pairwise_cells {r : ResultSet} (distinct : r.rows.Nodup) :
    r.cells.Pairwise fun c d => (c.row, c.index) ≠ (d.row, d.index) := by
  have places : (r.cells.map fun c => (c.row, c.index)).Nodup := by
    rw [map_index_cells, List.nodup_flatMap]
    refine ⟨fun row _ => ?_, distinct.imp fun {row row'} ne => ?_⟩
    · exact List.nodup_range.map fun i j same => (Prod.mk.inj same).2
    · intro place mem mem'
      obtain ⟨i, -, rfl⟩ := List.mem_map.mp mem
      obtain ⟨j, -, same⟩ := List.mem_map.mp mem'
      exact ne (Prod.mk.inj same).1.symm
  exact List.pairwise_map.mp places

/-- In one row cells stand under different columns, if no column comes twice. -/
theorem column_ne_of_row_eq {r : ResultSet} (distinct : r.columns.Nodup) {c d : Cell}
    (hc : c ∈ r.cells) (hd : d ∈ r.cells) (apart : (c.row, c.index) ≠ (d.row, d.index))
    (row : c.row = d.row) : c.column ≠ d.column := by
  intro column
  have atC := (getElem?_of_mem_cells hc).1
  have atD := (getElem?_of_mem_cells hd).1
  rw [← column] at atD
  have bound : c.index < r.columns.length := (List.getElem?_eq_some_iff.mp atC).1
  exact apart (Prod.ext row ((List.getElem?_inj bound distinct).mp (atC.trans atD.symm)))

end ResultSet

theorem CellResult.metric?_eq_some_iff {result : CellResult} {m : Metric} :
    result.metric? = some m ↔ result = .metric m := by
  cases result <;> simp [metric?]

namespace Schema

/-- The metrics of a result set come from cells of it, each from one of its own. -/
theorem exists_sources {s : Schema} {namespaceName : String} {r : ResultSet} {batch : Batch}
    (h : s.convert namespaceName r = .ok batch) :
    ∃ sources, sources.Sublist r.cells ∧
      List.Forall₂ (fun c m => s.visitCell namespaceName r c = .ok (.metric m)) sources
        batch.metrics := by
  rw [s.convert_eq] at h
  cases visited : r.cells.mapM (s.visitCell namespaceName r) with
  | error a =>
    rw [visited] at h
    cases h
  | ok results =>
    rw [visited] at h
    cases h
    obtain ⟨sources, part, given⟩ :=
      exists_sublist_of_filterMap (g := CellResult.metric?) (mapM_eq_ok.mp visited)
    rw [Batch.ofCells_eq]
    refine ⟨sources, part, given.imp fun c m => ?_⟩
    rintro ⟨result, gives, metric⟩
    rw [gives, CellResult.metric?_eq_some_iff.mp metric]

theorem labelValues_of_visit {s : Schema} {x : RowContext} {column : String} {value : Value}
    {m : Metric} (h : s.visit x column value = .ok (.metric m)) :
    m.labelValues = x.labelValues := by
  cases found : s.rules.get? column with
  | none =>
    simp only [visit, found] at h
    obtain ⟨y, rfl⟩ := metric_of_visitUnknown (Except.ok.inj h)
    rfl
  | some rule =>
    obtain ⟨-, d, -, made⟩ := metric_of_visit found h
    split at made <;> obtain ⟨y, rfl⟩ := made <;> rfl

end Schema

namespace Namespace

variable {n : Namespace} {v : Version} {namespaceName stem : String}
  {constLabels : Dict String String} {r : ResultSet}

theorem exports_of_visitCell {c : Cell} {m : Metric}
    (h : (n.compile v namespaceName stem constLabels).visitCell namespaceName r c =
      .ok (.metric m)) : n.Exports v namespaceName stem constLabels c.column m :=
  Schema.exports_of_visit (x := ⟨namespaceName, r, c.row, _⟩) (List.length_map _) h

/-- Two cells give metrics of one series exactly if they stand in one row, and one column is a span
and the other is named like its milliseconds. -/
theorem same_series_iff {c d : Cell} {p q : Metric} (columns : r.columns.Nodup)
    (rows : (r.rows.map ((n.compile v namespaceName stem constLabels).labelValues r)).Nodup)
    (hc : c ∈ r.cells) (hd : d ∈ r.cells) (apart : (c.row, c.index) ≠ (d.row, d.index))
    (hp : (n.compile v namespaceName stem constLabels).visitCell namespaceName r c =
      .ok (.metric p))
    (hq : (n.compile v namespaceName stem constLabels).visitCell namespaceName r d =
      .ok (.metric q)) :
    p.name = q.name ∧ p.labelValues = q.labelValues ↔
      c.row = d.row ∧ (n.MeetsSpan v c.column d.column ∨ n.MeetsSpan v d.column c.column) := by
  have exportsC := exports_of_visitCell hp
  have exportsD := exports_of_visitCell hq
  rw [exportsC.name_eq, exportsD.name_eq, metricName_inj, Schema.labelValues_of_visit hp,
    Schema.labelValues_of_visit hq]
  constructor
  · rintro ⟨name, labels⟩
    have row : c.row = d.row := List.inj_on_of_nodup_map rows (ResultSet.row_mem_of_mem_cells hc)
      (ResultSet.row_mem_of_mem_cells hd) labels
    exact ⟨row, meetsSpan_of_exportedColumn_eq
      (ResultSet.column_ne_of_row_eq columns hc hd apart row) (fun _ => exportsC.supported)
      (fun _ => exportsD.supported) name⟩
  · rintro ⟨row, meets⟩
    exact ⟨meets.elim (·.exportedColumn_eq) (·.exportedColumn_eq.symm), by rw [row]⟩

/-- If no column name and no label tuple comes twice, two metrics of a result set have one name and
the same label values exactly if they come from one row, the one from a span that the version has
and the other from a column that is no span and is named like the milliseconds of the span. -/
theorem series_repeat_iff_meets_span (n : Namespace) (v : Version) (namespaceName stem : String)
    (constLabels : Dict String String) (r : ResultSet) (columns : r.columns.Nodup)
    (rows : (r.rows.map ((n.compile v namespaceName stem constLabels).labelValues r)).Nodup)
    {batch : Batch}
    (converted : (n.compile v namespaceName stem constLabels).convert namespaceName r =
      .ok batch) :
    ∃ sources, sources.Sublist r.cells ∧
      List.Forall₂ (fun c m => (n.compile v namespaceName stem constLabels).visitCell
        namespaceName r c = .ok (.metric m)) sources batch.metrics ∧
      (sources.zip batch.metrics).Pairwise fun p q =>
        (p.2.name = q.2.name ∧ p.2.labelValues = q.2.labelValues ↔
          p.1.row = q.1.row ∧
            (n.MeetsSpan v p.1.column q.1.column ∨ n.MeetsSpan v q.1.column p.1.column)) := by
  obtain ⟨sources, part, given⟩ := Schema.exists_sources converted
  refine ⟨sources, part, given, ?_⟩
  -- the sources are a part of the cells, so they stand at different places as well
  have places : (sources.zip batch.metrics).Pairwise fun p q =>
      (p.1.row, p.1.index) ≠ (q.1.row, q.1.index) := by
    have apart := (ResultSet.pairwise_cells rows.of_map).sublist part
    rwa [← List.map_fst_zip (Nat.le_of_eq given.length_eq), List.pairwise_map] at apart
  refine places.imp_of_mem fun {p q} hp hq apart => ?_
  have mem {e : Cell × Metric} (he : e ∈ sources.zip batch.metrics) : e.1 ∈ r.cells :=
    part.subset (List.of_mem_zip he).1
  exact same_series_iff columns rows (mem hp) (mem hq) apart ((List.forall₂_iff_zip.mp given).2 hp)
    ((List.forall₂_iff_zip.mp given).2 hq)

namespace Milliseconds

/-- A label, a span, and a gauge that is named like the milliseconds of the span. -/
def view : Namespace where
  columns := .ofList [
    ("slot", .plain .label "Slot"),
    ("age", .plain .duration "Age"),
    ("age_milliseconds", .plain .gauge "Age")]
  masterOnly := false
  cacheSeconds := 0

def schema : Schema := view.compile ⟨14, 0, 0⟩ "pg_x" "pg" .empty

/-- In the second row the span is not set. -/
def answer : ResultSet :=
  ⟨["slot", "age", "age_milliseconds"],
    [[.text "a", .text "2s", .int 2000], [.text "b", .text "-1", .int 7]]⟩

/-- The series that the first row gives twice comes from the span and from the gauge. -/
theorem series_of_answer :
    answer.columns.Nodup ∧ (answer.rows.map (schema.labelValues answer)).Nodup ∧
      ∃ p q others errors, schema.convert "pg_x" answer = .ok ⟨p :: q :: others, errors⟩ ∧
        (p.name = q.name ∧ p.labelValues = q.labelValues) ∧
        ∃ c d : Cell, schema.visitCell "pg_x" answer c = .ok (.metric p) ∧
          schema.visitCell "pg_x" answer d = .ok (.metric q) ∧ c.row = d.row ∧
          (view.MeetsSpan ⟨14, 0, 0⟩ c.column d.column ∨
            view.MeetsSpan ⟨14, 0, 0⟩ d.column c.column) := by
  have columns : answer.columns.Nodup := by decide
  have rows : (answer.rows.map (schema.labelValues answer)).Nodup := by decide +kernel
  have series : (schema.convert "pg_x" answer).toOption.map
      (fun batch => batch.metrics.map fun m => (m.name, m.labelValues)) =
      some [("pg_x_age_milliseconds", ["a"]), ("pg_x_age_milliseconds", ["a"]),
        ("pg_x_age_milliseconds", ["b"])] := by decide +kernel
  obtain ⟨⟨metrics, errors⟩, converted, names⟩ := Option.map_eq_some_iff.mp series
  obtain ⟨p, others, rfl, first, names⟩ := List.map_eq_cons_iff.mp names
  obtain ⟨q, others, rfl, second, -⟩ := List.map_eq_cons_iff.mp names
  obtain ⟨sources, -, given, repeats⟩ := view.series_repeat_iff_meets_span ⟨14, 0, 0⟩ "pg_x" "pg"
    .empty answer columns rows (eq_ok_of_toOption converted)
  obtain ⟨c, rest, hp, later, rfl⟩ := List.forall₂_cons_right_iff.mp given
  obtain ⟨d, rest, hq, -, rfl⟩ := List.forall₂_cons_right_iff.mp later
  have same : p.name = q.name ∧ p.labelValues = q.labelValues := by
    obtain ⟨name, labels⟩ := Prod.mk.inj (first.trans second.symm)
    exact ⟨name, labels⟩
  have meets := ((List.pairwise_cons.mp repeats).1 (d, q) List.mem_cons_self).mp same
  exact ⟨columns, rows, p, q, others, errors, eq_ok_of_toOption converted, same, c, d, hp, hq,
    meets⟩

end Milliseconds

end Namespace

end PgMetrics
