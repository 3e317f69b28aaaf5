import PgMetrics.Metric.Family
import PgMetrics.Proofs.Dict

/-!
# The labels of a sample

The labels of a sample are sorted by name. Sorting moves no label past another of its name, so of
one name the varying labels stand first, as they are declared, and the constant one last. The
look-up by name takes its value from the first of them.

## Main definitions

* `Metric.Exposes` — the sample that is written for a metric.

## Main results

* `Metric.zipLabels_eq_mapIdx` — varying labels have the values at their positions.
* `Metric.filter_labelPairs` — the labels of one name.
* `Metric.label?_iff_first_pair` — the look-up in terms of what is written.
-/

namespace PgMetrics

theorem Dict.find?_toList {α β : Type} [Ord α] [Std.LawfulEqOrd α] [BEq α] [LawfulBEq α]
    (d : Dict α β) (k : α) :
    (d.toList.find? fun e => e.1 == k) = (d.get? k).map (k, ·) := by
  unfold toList get?
  induction d.entries with
  | nil => rfl
  | cons e rest ih =>
    by_cases same : k = e.1
    · subst same
      simp [lookupEntry]
    · have other : ¬ e.1 = k := fun h => same h.symm
      simp [lookupEntry, Std.LawfulEqCmp.compare_eq_iff_eq, same, other, ih]

namespace Metric

/-! ## Varying labels -/

/-- A varying label has the value at its position, or an empty one where the values end before. -/
theorem zipLabels_eq_mapIdx (names values : List String) :
    zipLabels names values = names.mapIdx fun i name => (name, values[i]?.getD "") := by
  induction names generalizing values with
  | nil => rfl
  | cons name rest ih => cases values <;> simp [zipLabels, ih, List.mapIdx_cons]

theorem find?_zipLabels (names values : List String) (n : String) :
    ((zipLabels names values).find? fun p => p.1 == n) =
      (names.findIdx? (· == n)).map fun i => (n, values[i]?.getD "") := by
  induction names generalizing values with
  | nil => rfl
  | cons name rest ih =>
    by_cases same : name = n
    · subst same
      cases values <;> simp [zipLabels, List.findIdx?_cons]
    · cases values <;> simp [zipLabels, List.findIdx?_cons, same, ih, Function.comp_def]

/-! ## Sorting -/

section Sorted

theorem byName_trans (p q r : String × String) (first : decide (p.1 ≤ q.1) = true)
    (second : decide (q.1 ≤ r.1) = true) : decide (p.1 ≤ r.1) = true :=
  decide_eq_true (String.le_trans (of_decide_eq_true first) (of_decide_eq_true second))

theorem byName_total (p q : String × String) :
    (decide (p.1 ≤ q.1) || decide (q.1 ≤ p.1)) = true := by
  simpa using String.le_total p.1 q.1

variable (m : Metric)

theorem pairwise_labelPairs : m.labelPairs.Pairwise fun p q => p.1 ≤ q.1 :=
  (List.pairwise_mergeSort byName_trans byName_total _).imp of_decide_eq_true

/-- Sorting keeps the order of the labels of one name: those that vary, then the constant one. -/
theorem filter_labelPairs (n : String) :
    (m.labelPairs.filter fun p => p.1 == n) =
      (zipLabels m.descriptor.variableLabels m.labelValues).filter (fun p => p.1 == n) ++
        m.descriptor.constLabels.toList.filter fun p => p.1 == n := by
  rw [← List.filter_append, labelPairs]
  generalize zipLabels m.descriptor.variableLabels m.labelValues ++
    m.descriptor.constLabels.toList = pairs
  -- labels of one name are in order as they are, so they are a part of the sorted list as well
  have ordered : (pairs.filter fun p => p.1 == n).Pairwise fun p q => decide (p.1 ≤ q.1) := by
    refine List.pairwise_of_forall_mem_list fun p hp q hq => ?_
    have same : p.1 = q.1 := by
      rw [eq_of_beq (List.mem_filter.mp hp).2, eq_of_beq (List.mem_filter.mp hq).2]
    simp [same]
  have part := (List.sublist_mergeSort byName_trans byName_total ordered
    List.filter_sublist).filter fun p => p.1 == n
  rw [List.filter_filter] at part
  simp only [Bool.and_self] at part
  exact (part.eq_of_length ((List.mergeSort_perm pairs _).filter _).length_eq.symm).symm

end Sorted

/-- The sample of a metric has its reading and all its labels, sorted by name; of one name the
varying ones come as they are declared, and then the constant one. -/
structure Exposes (m : Metric) (s : Sample) : Prop where
  reading : s.reading = m.reading
  sorted : s.labels.Pairwise fun p q => p.1 ≤ q.1
  stable : ∀ n, (s.labels.filter fun p => p.1 == n) =
    (m.descriptor.variableLabels.mapIdx fun i name => (name, m.labelValues[i]?.getD "")).filter
        (fun p => p.1 == n) ++
      m.descriptor.constLabels.toList.filter fun p => p.1 == n

theorem exposes_sample (m : Metric) : m.Exposes m.sample where
  reading := rfl
  sorted := m.pairwise_labelPairs
  stable n := by
    rw [← zipLabels_eq_mapIdx]
    exact m.filter_labelPairs n

/-! ## Looking a label up -/

/-- The look-up finds the first label of the name, if a value belongs to it. -/
theorem label?_eq_find? {m : Metric} {n : String}
    (reached : ∀ i, m.descriptor.variableLabels.findIdx? (· == n) = some i →
      i < m.labelValues.length) :
    m.label? n = (m.labelPairs.find? fun p => p.1 == n).map (·.2) := by
  rw [← List.head?_filter, filter_labelPairs, List.head?_append, List.head?_filter,
    List.head?_filter, find?_zipLabels, Dict.find?_toList]
  unfold label?
  cases index : m.descriptor.variableLabels.findIdx? (· == n) with
  | none => simp [Function.comp_def]
  | some i => simp [List.getElem?_eq_getElem (reached i index)]

/-- If every varying label has a value, the look-up of a name gives a value exactly if a label of
the name is written, and it is the value of the first one. -/
theorem label?_iff_first_pair (m : Metric)
    (wide : m.descriptor.variableLabels.length ≤ m.labelValues.length) (n : String) :
    ((∃ v, m.label? n = some v) ↔ n ∈ m.sample.labels.map (·.1)) ∧
      ∀ v, m.label? n = some v ↔ ∃ before after, m.sample.labels = before ++ (n, v) :: after ∧
        ∀ p ∈ before, p.1 ≠ n := by
  have found : m.label? n = (m.labelPairs.find? fun p => p.1 == n).map (·.2) := by
    refine label?_eq_find? fun i index => ?_
    obtain ⟨bound, -⟩ := List.findIdx?_eq_some_iff_getElem.mp index
    omega
  refine ⟨?_, fun v => ?_⟩
  · rw [← Option.isSome_iff_exists, found, Option.isSome_map, List.find?_isSome, List.mem_map]
    simp only [beq_iff_eq]
    rfl
  · rw [found, Option.map_eq_some_iff]
    simp only [List.find?_eq_some_iff_append, beq_iff_eq]
    constructor
    · rintro ⟨⟨name, value⟩, ⟨rfl, before, after, split, others⟩, rfl⟩
      exact ⟨before, after, split, fun p mem => by simpa using others p mem⟩
    · rintro ⟨before, after, split, others⟩
      exact ⟨(n, v), ⟨rfl, before, after, split, fun p mem => by simpa using others p mem⟩, rfl⟩

namespace Crowded

/-- A label is declared twice and is constant besides, and there is a value too many. -/
def metric : Metric :=
  .scalar ⟨"pg_x_size", "Size", ["mode", "slot", "mode"],
    .ofList [("mode", "fixed"), ("server", "db:5432")]⟩ .gauge 1.0 ["first", "a", "second", "more"]

/-- Of the three labels of one name the first that is written has the value that is looked up, and a
name that is not found is not written. -/
theorem first_pair_of_crowded :
    metric.descriptor.variableLabels.length ≤ metric.labelValues.length ∧
      metric.label? "mode" = some "first" ∧
      (∃ before after, metric.sample.labels = before ++ ("mode", "first") :: after ∧
        ∀ p ∈ before, p.1 ≠ "mode") ∧
      metric.label? "more" = none ∧ "more" ∉ metric.sample.labels.map (·.1) := by
  have wide : metric.descriptor.variableLabels.length ≤ metric.labelValues.length := by decide
  have mode : metric.label? "mode" = some "first" := by decide
  have more : metric.label? "more" = none := by decide
  refine ⟨wide, mode, ((metric.label?_iff_first_pair wide "mode").2 "first").mp mode, more, ?_⟩
  rw [← (metric.label?_iff_first_pair wide "more").1, more]
  simp

end Crowded

end Metric

end PgMetrics
