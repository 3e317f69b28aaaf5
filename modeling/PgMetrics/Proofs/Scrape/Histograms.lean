import PgMetrics.Proofs.Scrape.Discards
import PgMetrics.Proofs.Value.Integers

/-!
# Histograms put together from four columns

A histogram is read from four columns of a row: its bounds, and the columns with the counts, the sum
and the number of observations that are named after it. If all four can be read, there are as many
counts as bounds and no count is below zero, the row gives the histogram; else it gives the first
fault that a check finds.

## Main definitions

* `HistogramParts` — what the four columns read.
* `RowContext.Reads` — that a row reads so.
* `histogramFaults` — the faults of a row, in the order of the checks.

## Main results

* `histogramOf_failsFirst` — a histogram without a fault, or the first fault.
* `HistogramParts.get?_buckets` — the buckets of a histogram.
* `Namespace.histogram_all_or_nothing` — what the cell of a histogram column gives.
-/

namespace PgMetrics

/-- What the four columns of a histogram read. -/
structure HistogramParts where
  bounds : List Float
  counts : List Int64
  sum : Float
  count : UInt64

namespace HistogramParts

/-- There are as many counts as bounds, and none is below zero. -/
structure WellFormed (p : HistogramParts) : Prop where
  lengths : p.bounds.length = p.counts.length
  signs : ∀ c ∈ p.counts, 0 ≤ c

/-- At the last place where a bound equal to `k` stands, the count is `amount`. -/
def CountsLast (p : HistogramParts) (k : Bound) (amount : UInt64) : Prop :=
  ∃ (i : Nat) (bound : Float) (count : Int64), p.bounds[i]? = some bound ∧
    p.counts[i]? = some count ∧ compare k ⟨bound⟩ = .eq ∧
    (∀ (j : Nat) later, i < j → p.bounds[j]? = some later → compare k ⟨later⟩ ≠ .eq) ∧
    (amount.toNat : Int) = count.toInt

/-- The histogram of the parts. -/
def histogram (p : HistogramParts) : Histogram :=
  ⟨bucketsOf p.bounds (p.counts.map Int64.toUInt64), p.sum, p.count⟩

end HistogramParts

namespace RowContext

/-- The columns of a row that belong to a histogram column read as its parts. -/
structure Reads (x : RowContext) (column : String) (bounds : Value) (p : HistogramParts) :
    Prop where
  bounds : bounds.numbers? = some p.bounds
  counts : (x.cell? (column ++ "_bucket")).bind Value.integers? = some p.counts
  sum : (x.cell? (column ++ "_sum")).bind Value.number? = some p.sum
  count : (x.cell? (column ++ "_count")).bind Value.count? = some p.count

/-- The fault of a column that is not there. -/
def absent (x : RowContext) (name : String) : List ConversionError :=
  if (x.cell? name).isSome then [] else [.missingColumn x.namespaceName name]

/-- The fault of a value without a reading. -/
def unread {α : Type} (x : RowContext) (name : String) (read : Value → Option α) (value : Value) :
    List ConversionError :=
  if (read value).isSome then [] else [.unparseable x.namespaceName name value.shown]

/-- The faults of a column that must be there and be read. -/
def unreadable {α : Type} (x : RowContext) (name : String) (read : Value → Option α) :
    List ConversionError :=
  x.absent name ++ (x.cell? name).toList.flatMap (x.unread name read)

/-- The fault of bounds that have not as many counts. -/
def mismatch (x : RowContext) (column : String) (bounds : Value) : List ConversionError :=
  match bounds.numbers?, (x.cell? (column ++ "_bucket")).bind Value.integers? with
  | some keys, some counts =>
    if keys.length = counts.length then []
    else [.bucketMismatch x.namespaceName column keys.length counts.length]
  | _, _ => []

/-- The fault of counts of which one is below zero. -/
def negative (x : RowContext) (column : String) : List ConversionError :=
  (x.cell? (column ++ "_bucket")).toList.flatMap fun value =>
    if (value.integers?.getD []).all (0 ≤ ·) then []
    else [.unparseable x.namespaceName (column ++ "_bucket") value.shown]

end RowContext

/-- The faults of a histogram, in the order of the checks. -/
def histogramFaults (x : RowContext) (column : String) (bounds : Value) : List ConversionError :=
  x.unread column Value.numbers? bounds ++
    x.unreadable (column ++ "_bucket") Value.integers? ++
    x.unreadable (column ++ "_sum") Value.number? ++
    x.unreadable (column ++ "_count") Value.count? ++
    x.mismatch column bounds ++ x.negative column

/-! ## A histogram or a fault -/

section Reading

variable (x : RowContext)

theorem RowContext.failsFirst_demand {α : Type} (name : String) (read : Value → Option α)
    (value : Value) :
    FailsFirst (x.unread name read value) (x.demand name value (read value))
      fun a => read value = some a := by
  unfold unread demand
  cases reading : read value with
  | none => exact .error _ _
  | some a => exact .ok rfl

theorem RowContext.failsFirst_require (name : String) :
    FailsFirst (x.absent name) (x.require name) fun value => x.cell? name = some value := by
  unfold absent require
  cases x.cell? name with
  | none => exact .error _ _
  | some value => exact .ok rfl

/-- A column is looked up and then read. -/
theorem RowContext.failsFirst_read {α β : Type} {name : String} {read : Value → Option α}
    {more : List ConversionError} {next : Value → α → Except ConversionError β} {Q : β → Prop}
    (h : ∀ value a, x.cell? name = some value → read value = some a →
      FailsFirst more (next value a) Q) :
    FailsFirst (x.unreadable name read ++ more) (do
      let value ← x.require name
      let a ← x.demand name value (read value)
      next value a) Q := by
  unfold unreadable
  rw [List.append_assoc]
  refine (x.failsFirst_require name).bind fun value found => ?_
  rw [found, Option.toList_some, List.flatMap_singleton]
  exact (x.failsFirst_demand name read value).bind fun a reading => h value a found reading

theorem mapM_bucketCount? (counts : List Int64) :
    counts.mapM bucketCount? =
      if counts.all (0 ≤ ·) then some (counts.map Int64.toUInt64) else none := by
  induction counts with
  | nil => rfl
  | cons c rest ih =>
    rw [List.mapM_cons, ih, bucketCount?, List.all_cons]
    by_cases first : 0 ≤ c
    · rw [if_pos first, decide_eq_true first, Bool.true_and]
      cases rest.all (0 ≤ ·) <;> rfl
    · rw [if_neg first, decide_eq_false first, Bool.false_and]
      rfl

/-- A row gives the histogram of its parts, or its first fault. -/
theorem histogramOf_failsFirst (column : String) (bounds : Value) :
    FailsFirst (histogramFaults x column bounds) (histogramOf x column bounds) fun h =>
      ∃ p, x.Reads column bounds p ∧ p.WellFormed ∧ h = p.histogram := by
  unfold histogramFaults histogramOf
  simp only [List.append_assoc]
  refine (x.failsFirst_demand column Value.numbers? bounds).bind fun keys readBounds => ?_
  refine x.failsFirst_read fun bucketValue counts bucketCell readCounts => ?_
  refine x.failsFirst_read fun sumValue sum sumCell readSum => ?_
  refine x.failsFirst_read fun countValue count countCell readCount => ?_
  have reads : x.Reads column bounds ⟨keys, counts, sum, count⟩ := by
    constructor <;> simp [*]
  unfold RowContext.mismatch RowContext.negative
  simp only [readBounds, bucketCell, readCounts, Option.bind_some, Option.toList_some,
    List.flatMap_singleton, Option.getD_some]
  split
  case isTrue lengths =>
    rw [if_neg (not_not.mpr lengths), mapM_bucketCount?]
    cases signs : counts.all (0 ≤ ·) with
    | true => exact .ok ⟨_, reads, ⟨lengths, by simpa using signs⟩, rfl⟩
    | false => exact .error _ _
  case isFalse lengths => exact .inr ⟨_, rfl, rfl⟩

variable {x} {column : String} {bounds : Value} {p : HistogramParts}

/-- A row reads in one way only. -/
theorem RowContext.Reads.unique {q : HistogramParts} (h : x.Reads column bounds p)
    (g : x.Reads column bounds q) : q = p := by
  obtain ⟨bounds₁, counts₁, sum₁, count₁⟩ := h
  obtain ⟨bounds₂, counts₂, sum₂, count₂⟩ := g
  cases p
  cases q
  simp_all

/-- Parts that are read and well-formed have no fault. -/
theorem histogramFaults_eq_nil (reads : x.Reads column bounds p) (wellFormed : p.WellFormed) :
    histogramFaults x column bounds = [] := by
  obtain ⟨readBounds, readCounts, readSum, readCount⟩ := reads
  obtain ⟨bucketValue, bucketCell, readCounts'⟩ := Option.bind_eq_some_iff.mp readCounts
  obtain ⟨sumValue, sumCell, readSum⟩ := Option.bind_eq_some_iff.mp readSum
  obtain ⟨countValue, countCell, readCount⟩ := Option.bind_eq_some_iff.mp readCount
  have signs : p.counts.all (0 ≤ ·) := List.all_eq_true.mpr fun c mem =>
    decide_eq_true (wellFormed.signs c mem)
  simp [histogramFaults, RowContext.unread, RowContext.unreadable, RowContext.absent,
    RowContext.mismatch, RowContext.negative, wellFormed.lengths, -List.all_eq_true, *]

theorem histogramOf_eq_error_iff {e : ConversionError} :
    histogramOf x column bounds = .error e ↔ (histogramFaults x column bounds).head? = some e :=
  (histogramOf_failsFirst x column bounds).eq_error_iff

theorem histogramOf_eq_ok_iff {h : Histogram} :
    histogramOf x column bounds = .ok h ↔
      ∃ p, x.Reads column bounds p ∧ p.WellFormed ∧ h = p.histogram := by
  have checked := histogramOf_failsFirst x column bounds
  constructor
  · intro built
    rcases checked with ⟨-, h', given, parts⟩ | ⟨e, -, failed⟩
    · cases given.symm.trans built
      exact parts
    · cases failed.symm.trans built
  · rintro ⟨p, reads, wellFormed, rfl⟩
    rcases checked with ⟨-, h, given, q, reads', -, rfl⟩ | ⟨e, first, -⟩
    · rw [given, reads.unique reads']
    · rw [histogramFaults_eq_nil reads wellFormed] at first
      cases first

end Reading

/-! ## Buckets -/

namespace HistogramParts

variable {p q : HistogramParts}

/-- The bucket of a bound and its count. -/
def bucket (b : Float × Int64) : Bound × UInt64 := (⟨b.1⟩, b.2.toUInt64)

theorem buckets_eq (p : HistogramParts) :
    p.histogram.buckets = .ofList ((p.bounds.zip p.counts).map bucket) := by
  unfold histogram bucketsOf Dict.ofList
  rw [List.zip_map_right, List.foldl_map, List.foldl_map]
  rfl

theorem getElem?_buckets (p : HistogramParts) (i : Nat) (e : Bound × UInt64) :
    ((p.bounds.zip p.counts).map bucket)[i]? = some e ↔
      ∃ bound count, p.bounds[i]? = some bound ∧ p.counts[i]? = some count ∧
        e = (⟨bound⟩, count.toUInt64) := by
  simp only [List.getElem?_map, Option.map_eq_some_iff, List.getElem?_zip_eq_some, Prod.exists,
    bucket, and_assoc, eq_comm (a := e)]

/-- A bound finds the count at the last place where it stands, and there are no other buckets. -/
theorem get?_buckets (h : p.WellFormed) {k : Bound} {amount : UInt64} :
    p.histogram.buckets.get? k = some amount ↔ p.CountsLast k amount := by
  have value {count : Int64} {i : Nat} (found : p.counts[i]? = some count) :
      (count.toUInt64.toNat : Int) = count.toInt :=
    toNat_toUInt64 (h.signs count (List.mem_of_getElem? found))
  rw [buckets_eq, Dict.get?_ofList_eq_some_iff_getElem?]
  simp only [getElem?_buckets, CountsLast]
  constructor
  · rintro ⟨i, k', ⟨bound, count, atBound, atCount, entry⟩, equal, others⟩
    rw [Prod.mk.injEq] at entry
    obtain ⟨rfl, rfl⟩ := entry
    refine ⟨i, bound, count, atBound, atCount, equal, ?_, value atCount⟩
    intro j later after found
    have inCounts : j < p.counts.length := h.lengths ▸ (List.getElem?_eq_some_iff.mp found).1
    exact others j (⟨later⟩, p.counts[j].toUInt64) after
      ⟨later, _, found, List.getElem?_eq_getElem inCounts, rfl⟩
  · rintro ⟨i, bound, count, atBound, atCount, equal, others, same⟩
    refine ⟨i, ⟨bound⟩, ⟨bound, count, atBound, atCount, ?_⟩, equal, ?_⟩
    · rw [← value atCount, Int.natCast_inj, UInt64.toNat_inj] at same
      rw [same]
    · rintro j _ after ⟨later, -, found, -, rfl⟩
      exact others j later after found

/-- The same pairs of a bound and a count, in another order, with the same sum and number. -/
structure Shuffles (p q : HistogramParts) : Prop where
  sum : q.sum = p.sum
  count : q.count = p.count
  lengths : q.bounds.length = q.counts.length
  pairs : (p.bounds.zip p.counts).Perm (q.bounds.zip q.counts)

theorem Shuffles.wellFormed (h : p.Shuffles q) (wellFormed : p.WellFormed) : q.WellFormed := by
  refine ⟨h.lengths, fun c mem => ?_⟩
  have counts : q.counts = (q.bounds.zip q.counts).map Prod.snd :=
    (List.map_snd_zip (Nat.le_of_eq h.lengths.symm)).symm
  rw [counts] at mem
  obtain ⟨pair, inPairs, rfl⟩ := List.mem_map.mp mem
  exact wellFormed.signs _ (List.of_mem_zip (h.pairs.mem_iff.mpr inPairs)).2

/-- The order does not count if no bound comes twice. -/
theorem Shuffles.histogram_eq (h : p.Shuffles q) (wellFormed : p.WellFormed)
    (distinct : p.bounds.Pairwise fun a b => compare (⟨a⟩ : Bound) ⟨b⟩ ≠ .eq) :
    q.histogram = p.histogram := by
  have bounds : p.bounds = (p.bounds.zip p.counts).map Prod.fst :=
    (List.map_fst_zip (Nat.le_of_eq wellFormed.lengths)).symm
  have buckets : q.histogram.buckets = p.histogram.buckets := by
    rw [buckets_eq, buckets_eq]
    refine (Dict.ofList_eq_of_perm (h.pairs.map bucket) ?_).symm
    rw [bounds, List.pairwise_map] at distinct
    rw [List.pairwise_map]
    exact distinct
  calc q.histogram
    _ = ⟨q.histogram.buckets, q.sum, q.count⟩ := rfl
    _ = ⟨p.histogram.buckets, p.sum, p.count⟩ := by rw [buckets, h.sum, h.count]
    _ = p.histogram := rfl

end HistogramParts

/-! ## The cell of a histogram column -/

section Cell

variable {x y : RowContext} {column : String} {bounds : Value}

/-- Of the counts only the reading and the shown text matter. -/
theorem histogramOf_congr_counts (h : x.SameOutside (· = column ++ "_bucket") y) {a b : Value}
    (cell : x.cell? (column ++ "_bucket") = some a) (cell' : y.cell? (column ++ "_bucket") = some b)
    (reading : b.integers? = a.integers?) (shown : b.shown = a.shown) (bounds : Value) :
    histogramOf y column bounds = histogramOf x column bounds := by
  have demand {α : Type} (name : String) (value : Value) (reading : Option α) :
      y.demand name value reading = x.demand name value reading := by
    simp [RowContext.demand, h.namespaceName]
  have counts {α : Type} (reading : Option α) :
      x.demand (column ++ "_bucket") b reading = x.demand (column ++ "_bucket") a reading := by
    simp [RowContext.demand, shown]
  have bucket : x.require (column ++ "_bucket") = .ok a := by simp [RowContext.require, cell]
  have bucket' : y.require (column ++ "_bucket") = .ok b := by simp [RowContext.require, cell']
  have require {ending : String} (other : ending ≠ "_bucket") :
      y.require (column ++ ending) = x.require (column ++ ending) := by
    simp [RowContext.require, h.namespaceName, h.cell? (column ++ ending) (by simpa using other)]
  have sum := @require "_sum" (by decide)
  have count := @require "_count" (by decide)
  simp only [histogramOf, demand, h.namespaceName, bucket, bucket', sum, count, bind, Except.bind,
    reading, counts]

/-- Counts that are written as a text are read, and shown, as the array itself. -/
theorem histogramOf_of_text (h : x.SameOutside (· = column ++ "_bucket") y) {array : List Int64}
    (native : x.cell? (column ++ "_bucket") = some (.ints array))
    (written : y.cell? (column ++ "_bucket") = some (.text (Value.ints array).label))
    (bounds : Value) : histogramOf y column bounds = histogramOf x column bounds := by
  have reading : (Value.text (Value.ints array).label).integers? = (Value.ints array).integers? :=
    Value.integers?_text_label array
  have shown : (Value.text (Value.ints array).label).shown = (Value.ints array).shown :=
    String.ofList_toList
  exact histogramOf_congr_counts h native written reading shown bounds

/-- Rows that read as the same pairs give the same histogram, if no bound comes twice. -/
theorem histogramOf_of_shuffles {bounds' : Value} {p q : HistogramParts}
    (reads : x.Reads column bounds p) (reads' : y.Reads column bounds' q) (shuffles : p.Shuffles q)
    (wellFormed : p.WellFormed)
    (distinct : p.bounds.Pairwise fun a b => compare (⟨a⟩ : Bound) ⟨b⟩ ≠ .eq) :
    histogramOf y column bounds' = histogramOf x column bounds := by
  have built : histogramOf x column bounds = .ok p.histogram :=
    histogramOf_eq_ok_iff.mpr ⟨p, reads, wellFormed, rfl⟩
  have built' : histogramOf y column bounds' = .ok q.histogram :=
    histogramOf_eq_ok_iff.mpr ⟨q, reads', shuffles.wellFormed wellFormed, rfl⟩
  rw [built, built', shuffles.histogram_eq wellFormed distinct]

variable {n : Namespace} {v : Version} {c : Column}

theorem Namespace.visit_histogram (declared : n.columns.get? column = some c)
    (supported : c.isSupported v) (usage : c.usage = .histogram) (namespaceName stem : String)
    (constLabels : Dict String String) (x : RowContext) (bounds : Value) :
    (n.compile v namespaceName stem constLabels).visit x column bounds =
      .ok (match histogramOf x column bounds with
        | .ok h => .metric ⟨n.describe v namespaceName stem constLabels column c.description,
            x.labelValues, .histogram h⟩
        | .error e => .error e) := by
  have rule : (n.compile v namespaceName stem constLabels).rules.get? column =
      some ⟨false, true, .untyped,
        some (n.describe v namespaceName stem constLabels column c.description), .histogram⟩ := by
    rw [compile_rules_of_declared _ _ _ _ _ declared, ownRule, if_pos supported, ruleOf, usage]
  cases built : histogramOf x column bounds <;>
    simp only [Schema.visit, rule, Schema.visitHistogram, built, Bool.false_eq_true, ↓reduceIte]

end Cell

/-- The cell of a histogram column gives the histogram that its row reads as, exactly if the four
columns can be read, there are as many counts as bounds and no count is below zero; else it gives
the fault that is found first. The histogram has the sum and the number that are read, and for every
bound the count at the last place of the bound. Neither the order of different bounds matters, nor
whether the counts are an array or its text. -/
theorem Namespace.histogram_all_or_nothing {n : Namespace} {v : Version} {column : String}
    {c : Column} (declared : n.columns.get? column = some c) (supported : c.isSupported v)
    (usage : c.usage = .histogram) (namespaceName stem : String)
    (constLabels : Dict String String) (x : RowContext) (bounds : Value) :
    let given (x : RowContext) (bounds : Value) :=
      (n.compile v namespaceName stem constLabels).visit x column bounds
    let metric (h : Histogram) : Metric :=
      ⟨n.describe v namespaceName stem constLabels column c.description, x.labelValues,
        .histogram h⟩
    ((∃ h, given x bounds = .ok (.metric (metric h))) ↔
      ∃ p, x.Reads column bounds p ∧ p.WellFormed) ∧
    ((∃ h, given x bounds = .ok (.metric (metric h))) ∨ ∃ e, given x bounds = .ok (.error e)) ∧
    (∀ e, given x bounds = .ok (.error e) ↔ (histogramFaults x column bounds).head? = some e) ∧
    (∀ h, given x bounds = .ok (.metric (metric h)) → ∃ p, x.Reads column bounds p ∧
      p.WellFormed ∧ h.sum = p.sum ∧ h.count = p.count ∧
      ∀ k amount, h.buckets.get? k = some amount ↔ p.CountsLast k amount) ∧
    (∀ (y : RowContext) bounds' p q, y.labelValues = x.labelValues →
      x.Reads column bounds p → y.Reads column bounds' q → p.Shuffles q → p.WellFormed →
        (p.bounds.Pairwise fun a b => compare (⟨a⟩ : Bound) ⟨b⟩ ≠ .eq) →
          given y bounds' = given x bounds) ∧
    ∀ (y : RowContext) array, x.SameOutside (· = column ++ "_bucket") y →
      x.cell? (column ++ "_bucket") = some (.ints array) →
      y.cell? (column ++ "_bucket") = some (.text (Value.ints array).label) →
        given y bounds = given x bounds := by
  intro given metric
  have visited (x : RowContext) (bounds : Value) : given x bounds = _ :=
    visit_histogram declared supported usage namespaceName stem constLabels x bounds
  have gives (h : Histogram) :
      given x bounds = .ok (.metric (metric h)) ↔ histogramOf x column bounds = .ok h := by
    rw [visited]
    cases histogramOf x column bounds <;> simp [metric]
  have fails (e : ConversionError) :
      given x bounds = .ok (.error e) ↔ histogramOf x column bounds = .error e := by
    rw [visited]
    cases histogramOf x column bounds <;> simp
  simp only [gives, fails]
  refine ⟨?_, ?_, fun e => histogramOf_eq_error_iff, ?_, ?_, ?_⟩
  · simp only [histogramOf_eq_ok_iff]
    constructor
    · rintro ⟨h, p, reads, wellFormed, -⟩
      exact ⟨p, reads, wellFormed⟩
    · rintro ⟨p, reads, wellFormed⟩
      exact ⟨p.histogram, p, reads, wellFormed, rfl⟩
  · cases built : histogramOf x column bounds with
    | ok h => exact .inl ⟨h, rfl⟩
    | error e => exact .inr ⟨e, rfl⟩
  · intro h built
    obtain ⟨p, reads, wellFormed, rfl⟩ := histogramOf_eq_ok_iff.mp built
    exact ⟨p, reads, wellFormed, rfl, rfl, fun k amount => HistogramParts.get?_buckets wellFormed⟩
  · intro y bounds' p q labels reads reads' shuffles wellFormed distinct
    rw [visited, visited, histogramOf_of_shuffles reads reads' shuffles wellFormed distinct, labels]
  · intro y array same native written
    rw [visited, visited, histogramOf_of_text same native written, same.labelValues]

namespace Latency

/-- A histogram column. -/
def view : Namespace where
  columns := .ofList [("lag", .plain .histogram "Lag")]
  masterOnly := false
  cacheSeconds := 0

def bounds : Value := .floats [0.5, 2.5]

/-- A row with these counts and this sum. -/
def row (counts sum : Value) : RowContext :=
  ⟨"pg_x", ⟨["lag", "lag_bucket", "lag_sum", "lag_count"], []⟩, [bounds, counts, sum, .int 7], []⟩

/-- What the histogram column of a row gives. -/
def given (x : RowContext) : Except Abort CellResult :=
  (view.compile ⟨14, 0, 0⟩ "pg_x" "pg" .empty).visit x "lag" bounds

theorem sameOutside_row (counts counts' sum : Value) :
    (row counts sum).SameOutside (· = "lag" ++ "_bucket") (row counts' sum) where
  namespaceName := rfl
  labelValues := rfl
  cell? name other := by
    unfold RowContext.cell?
    cases index : (row counts sum).result.columnIndex? name with
    | none =>
      have index' : (row counts' sum).result.columnIndex? name = none := index
      rw [index', Option.bind_none, Option.bind_none]
    | some i =>
      have index' : (row counts' sum).result.columnIndex? name = some i := index
      have column := ResultSet.columns_of_columnIndex? index
      rw [index', Option.bind_some, Option.bind_some]
      match i, column with
      | 0, _ => rfl
      | 1, column => exact absurd (Option.some.inj column).symm other
      | 2, _ => rfl
      | 3, _ => rfl
      | _ + 4, _ => rfl

/-- A row that can be read gives a histogram, and the same one if its counts are a text. Of a count
below zero and a sum that cannot be read the sum is told. -/
theorem given_of_rows :
    (view.columns.get? "lag" = some (.plain .histogram "Lag") ∧
      (Column.plain .histogram "Lag").isSupported ⟨14, 0, 0⟩) ∧
    (∃ m, given (row (.ints [3, 7]) (.float 9.5)) = .ok (.metric m)) ∧
    given (row (.text "\x7b3,7\x7d") (.float 9.5)) = given (row (.ints [3, 7]) (.float 9.5)) ∧
    given (row (.ints [3, -7]) (.text "many")) =
      .ok (.error (.unparseable "pg_x" "lag_sum" "many")) := by
  have declared : view.columns.get? "lag" = some (.plain .histogram "Lag") := rfl
  have supported : (Column.plain .histogram "Lag").isSupported ⟨14, 0, 0⟩ := rfl
  have all := view.histogram_all_or_nothing declared supported rfl "pg_x" "pg" .empty
  obtain ⟨gives, -, -, -, -, written⟩ := all (row (.ints [3, 7]) (.float 9.5)) bounds
  obtain ⟨-, -, fails, -⟩ := all (row (.ints [3, -7]) (.text "many")) bounds
  refine ⟨⟨declared, supported⟩, ?_, ?_, ?_⟩
  · have read : (row (.ints [3, 7]) (.float 9.5)).Reads "lag" bounds ⟨[0.5, 2.5], [3, 7], 9.5, 7⟩ :=
      ⟨rfl, rfl, rfl, rfl⟩
    have signs : ∀ c ∈ ([3, 7] : List Int64), 0 ≤ c :=
      List.forall_mem_cons.mpr ⟨by decide, List.forall_mem_singleton.mpr (by decide)⟩
    obtain ⟨h, made⟩ := gives.mpr ⟨_, read, rfl, signs⟩
    exact ⟨_, made⟩
  · have label : (Value.ints [3, 7]).label = "\x7b3,7\x7d" := by decide +kernel
    refine written _ [3, 7] (sameOutside_row _ _ _) rfl ?_
    rw [label]
    rfl
  · exact (fails _).mpr (by decide +kernel)

end Latency

end PgMetrics
