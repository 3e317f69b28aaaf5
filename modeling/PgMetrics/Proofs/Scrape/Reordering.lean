import PgMetrics.Proofs.Scrape.Aborts
import PgMetrics.Proofs.Scrape.Discards

/-!
# Columns in another order

Values are visited by position, labels and the parts of a histogram are found by name. If no name
comes twice and every row reaches all columns, both ways lead to the same values in every order of
the columns. So the order decides on the order of what a result set gives and on nothing else.

## Main definitions

* `ResultSet.pick` — elements at given positions.
* `ResultSet.reorder` — a result set with its columns in another order.

## Main results

* `ResultSet.cell_reorder` — a column is found with the same value.
* `Schema.convert_reorder` — what a result set gives, in every order of its columns.
-/

namespace PgMetrics

namespace ResultSet

variable {α β : Type}

/-- The elements at the positions of a list. -/
def pick (order : List Nat) (l : List α) : List α := order.filterMap (l[·]?)

/-- A row with its columns in the given order. What it has beyond the columns stays there. -/
def reorderRow (order : List Nat) (r : ResultSet) (row : List Value) : List Value :=
  pick order row ++ row.drop r.columns.length

/-- The result set with its columns in the given order. -/
def reorder (order : List Nat) (r : ResultSet) : ResultSet :=
  ⟨pick order r.columns, r.rows.map (r.reorderRow order)⟩

theorem pick_range (l : List α) : pick (List.range l.length) l = l := by
  induction l with
  | nil => rfl
  | cons a rest ih =>
    unfold pick at ih
    simp [pick, List.range_succ_eq_map, List.filterMap_map, ih]

theorem pick_perm {order : List Nat} {l : List α} (h : order.Perm (List.range l.length)) :
    (pick order l).Perm l := by
  have picked : (pick order l).Perm (pick (List.range l.length) l) := h.filterMap _
  rwa [pick_range] at picked

/-- Columns and values that are picked at the same positions belong together as before. -/
theorem zip_pick {order : List Nat} {a : List α} {b : List β} (rest : List β)
    (within : ∀ i ∈ order, i < a.length) (full : a.length ≤ b.length) :
    (pick order a).zip (pick order b ++ rest) = pick order (a.zip b) := by
  induction order with
  | nil => rfl
  | cons i order ih =>
    obtain ⟨first, others⟩ := List.forall_mem_cons.mp within
    have second : i < b.length := by omega
    have inBoth : i < (a.zip b).length := by
      rw [List.length_zip]
      omega
    simp only [pick, List.filterMap_cons, List.getElem?_eq_getElem first,
      List.getElem?_eq_getElem second, List.getElem?_eq_getElem inBoth, List.getElem_zip,
      List.cons_append, List.zip_cons_cons]
    exact congrArg _ (ih others)

theorem columnIndex?_of_getElem? {r : ResultSet} (distinct : r.columns.Nodup) {name : String}
    {i : Nat} (column : r.columns[i]? = some name) : r.columnIndex? name = some i := by
  cases index : r.columnIndex? name with
  | none =>
    have other := List.findIdx?_eq_none_iff.mp index name (List.mem_of_getElem? column)
    simp at other
  | some j =>
    have bound : i < r.columns.length := (List.getElem?_eq_some_iff.mp column).1
    have same : i = j := (List.getElem?_inj bound distinct).mp
      (column.trans (columns_of_columnIndex? index).symm)
    rw [same]

/-- A value is found by the name of its column exactly if the two stand together. -/
theorem cell_eq_some_iff {r : ResultSet} (distinct : r.columns.Nodup) {row : List Value}
    {name : String} {value : Value} :
    ((r.columnIndex? name).bind fun i => row[i]?) = some value ↔
      (name, value) ∈ r.columns.zip row := by
  simp only [Option.bind_eq_some_iff, List.mem_iff_getElem?, List.getElem?_zip_eq_some]
  constructor
  · rintro ⟨i, index, found⟩
    exact ⟨i, columns_of_columnIndex? index, found⟩
  · rintro ⟨i, column, found⟩
    exact ⟨i, columnIndex?_of_getElem? distinct column, found⟩

section Reordered

variable {order : List Nat} {r : ResultSet} (any : order.Perm (List.range r.columns.length))
include any

theorem zip_reorder {row : List Value} (full : r.columns.length ≤ row.length) :
    ((r.reorder order).columns.zip (r.reorderRow order row)).Perm (r.columns.zip row) := by
  have within : ∀ i ∈ order, i < r.columns.length := by
    intro i mem
    exact List.mem_range.mp (any.mem_iff.mp mem)
  have length : (r.columns.zip row).length = r.columns.length := by
    rw [List.length_zip, Nat.min_eq_left full]
  rw [reorder, reorderRow, zip_pick _ within full]
  exact pick_perm (length.symm ▸ any)

/-- A column is found with the same value in every order of the columns. -/
theorem cell_reorder (distinct : r.columns.Nodup) {row : List Value}
    (full : r.columns.length ≤ row.length) (name : String) :
    (((r.reorder order).columnIndex? name).bind fun i => (r.reorderRow order row)[i]?) =
      (r.columnIndex? name).bind fun i => row[i]? := by
  have distinct' : (r.reorder order).columns.Nodup := (pick_perm any).nodup_iff.mpr distinct
  apply Option.ext
  intro value
  rw [cell_eq_some_iff distinct', cell_eq_some_iff distinct]
  exact (zip_reorder any full).mem_iff

end Reordered

end ResultSet

namespace Schema

variable {s : Schema}

/-- What a cell gives is decided by what its row reads as, wherever the columns stand. -/
theorem visit_of_same {x y : RowContext} (h : x.SameOutside (fun _ => False) y) (column : String)
    (value : Value) : s.visit y column value = s.visit x column value := by
  have histogram : histogramOf y column value = histogramOf x column value :=
    histogramOf_congr h (fun _ _ => id) value
  simp only [visit, visitUnknown, visitHistogram, visitScalar, histogram, h.namespaceName,
    h.labelValues]

/-- What the cells of a result set give, one by one. -/
def visits (s : Schema) (namespaceName : String) (r : ResultSet) :
    List (Except Abort CellResult) :=
  r.cells.map (s.visitCell namespaceName r)

theorem visits_eq_flatMap (namespaceName : String) (r : ResultSet) :
    s.visits namespaceName r = r.rows.flatMap fun row => (r.columns.zip row).map fun c =>
      s.visit ⟨namespaceName, r, row, s.labelValues r row⟩ c.1 c.2 := by
  rw [visits, ResultSet.cells, List.map_flatMap]
  refine List.flatMap_congr fun row _ => ?_
  have zipped : r.columns.zip row = (r.columns.zip row).zipIdx.map Prod.fst :=
    (List.zipIdx_map_fst 0 _).symm
  rw [zipped, ResultSet.cellsOf, List.map_map, List.map_map]
  rfl

theorem convert_eq_visits (namespaceName : String) (r : ResultSet) :
    s.convert namespaceName r = ((s.visits namespaceName r).mapM id).map Batch.ofCells := by
  rw [convert_eq, visits, List.mapM_map]
  rfl

theorem convert_eq_error_iff_mem {namespaceName : String} {r : ResultSet} {a : Abort} :
    s.convert namespaceName r = .error a ↔ .error a ∈ s.visits namespaceName r := by
  rw [convert_eq_error_iff, visits, List.mem_map]

section Reordered

variable {order : List Nat} {r : ResultSet} (any : order.Perm (List.range r.columns.length))
  (distinct : r.columns.Nodup) (full : ∀ row ∈ r.rows, r.columns.length ≤ row.length)
include any distinct full

theorem labelValues_reorder {row : List Value} (mem : row ∈ r.rows) :
    s.labelValues (r.reorder order) (r.reorderRow order row) = s.labelValues r row := by
  refine List.map_congr_left fun label _ => ?_
  rw [ResultSet.cell_reorder any distinct (full row mem)]

/-- The cells give the same in every order of the columns. -/
theorem visits_reorder (namespaceName : String) :
    (s.visits namespaceName (r.reorder order)).Perm (s.visits namespaceName r) := by
  have rows : (r.reorder order).rows = r.rows.map (r.reorderRow order) := rfl
  rw [visits_eq_flatMap, visits_eq_flatMap, rows, List.flatMap_map]
  refine List.Perm.flatMap_left _ fun row mem => ?_
  have same : RowContext.SameOutside (fun _ => False)
      ⟨namespaceName, r, row, s.labelValues r row⟩
      ⟨namespaceName, r.reorder order, r.reorderRow order row,
        s.labelValues (r.reorder order) (r.reorderRow order row)⟩ :=
    ⟨rfl, labelValues_reorder any distinct full mem,
      fun name _ => ResultSet.cell_reorder any distinct (full row mem) name⟩
  simp only [visit_of_same same]
  exact (ResultSet.zip_reorder any (full row mem)).map _

end Reordered

/-- In every order of its columns a result set gives the same metrics and the same errors, each as
often, or aborts in the same way. -/
theorem convert_reorder (s : Schema) (namespaceName : String) {order : List Nat} {r : ResultSet}
    (any : order.Perm (List.range r.columns.length)) (distinct : r.columns.Nodup)
    (full : ∀ row ∈ r.rows, r.columns.length ≤ row.length) :
    (∀ batch, s.convert namespaceName r = .ok batch → ∃ batch',
      s.convert namespaceName (r.reorder order) = .ok batch' ∧
        batch'.metrics.Perm batch.metrics ∧ batch'.errors.Perm batch.errors) ∧
    ∀ a, s.convert namespaceName (r.reorder order) = .error a ↔
      s.convert namespaceName r = .error a := by
  have same : (s.visits namespaceName (r.reorder order)).Perm (s.visits namespaceName r) :=
    visits_reorder any distinct full namespaceName
  constructor
  · intro batch converted
    rw [convert_eq_visits] at converted
    cases visited : (s.visits namespaceName r).mapM id with
    | error a =>
      rw [visited] at converted
      cases converted
    | ok results =>
      rw [visited] at converted
      cases converted
      obtain ⟨results', visited', perm⟩ := exists_perm_of_mapM same.symm visited
      refine ⟨.ofCells results', ?_, ?_⟩
      · rw [convert_eq_visits, visited']
        rfl
      · simp only [Batch.ofCells_eq]
        exact ⟨perm.filterMap _, perm.filterMap _⟩
  · intro a
    rw [convert_eq_error_iff_mem, convert_eq_error_iff_mem, same.mem_iff]

end Schema

namespace Shuffled

/-- A label, a gauge and a histogram. -/
def view : Namespace where
  columns := .ofList [
    ("slot", .plain .label "Slot"),
    ("size", .plain .gauge "Size"),
    ("lag", .plain .histogram "Lag")]
  masterOnly := false
  cacheSeconds := 0

def schema : Schema := view.compile ⟨14, 0, 0⟩ "pg_x" "pg" .empty

/-- Nothing is said of the last column. A size is no number, and a histogram has no buckets. -/
def answer : ResultSet :=
  ⟨["slot", "size", "lag", "lag_bucket", "lag_sum", "lag_count", "more"],
    [[.text "a", .int 1, .floats [0.5, 2.5], .ints [3, 7], .float 9.5, .int 7, .int 2],
      [.text "b", .text "many", .floats [0.5], .ints [], .float 9.5, .int 7, .int 3]]⟩

def order : List Nat := [6, 3, 1, 0, 5, 2, 4]

/-- The same metrics and errors are given where the labels come last and a histogram after its
parts, if in another order. -/
theorem convert_of_shuffled :
    (∀ batch, schema.convert "pg_x" answer = .ok batch → ∃ batch',
      schema.convert "pg_x" (answer.reorder order) = .ok batch' ∧
        batch'.metrics.Perm batch.metrics ∧ batch'.errors.Perm batch.errors) ∧
    (schema.convert "pg_x" answer).toOption.map
        (fun batch => (batch.metrics.map fun m => (m.name, m.labelValues), batch.errors)) =
      some ([("pg_x_size", ["a"]), ("pg_x_lag", ["a"]), ("pg_x_more", ["a"]),
          ("pg_x_more", ["b"])],
        [.unparseable "pg_x" "size" "many", .bucketMismatch "pg_x" "lag" 1 0]) ∧
    (schema.convert "pg_x" (answer.reorder order)).toOption.map
        (fun batch => (batch.metrics.map fun m => (m.name, m.labelValues), batch.errors)) =
      some ([("pg_x_more", ["a"]), ("pg_x_size", ["a"]), ("pg_x_lag", ["a"]),
          ("pg_x_more", ["b"])],
        [.unparseable "pg_x" "size" "many", .bucketMismatch "pg_x" "lag" 1 0]) := by
  have any : order.Perm (List.range answer.columns.length) := by decide
  have distinct : answer.columns.Nodup := by decide
  have full : ∀ row ∈ answer.rows, answer.columns.length ≤ row.length := by
    simp [answer]
  exact ⟨(schema.convert_reorder "pg_x" any distinct full).1, by decide +kernel,
    by decide +kernel⟩

end Shuffled

end PgMetrics
