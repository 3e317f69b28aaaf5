import PgMetrics.Metric.Basic

/-!
# Names under a stem

The name of a column is a name under the stem, whether its namespace carries the stem or not, and
two names under a stem are equal exactly if what stands behind it is.

## Main definitions

* `bareName` — a namespace without the stem that it may carry.
-/

namespace PgMetrics

theorem Text.dropStart?_eq_some {start s t : List Char} :
    Text.dropStart? start s = some t ↔ s = start ++ t := by
  induction start generalizing s with
  | nil => simp [Text.dropStart?]
  | cons c start ih =>
    cases s with
    | nil => simp [Text.dropStart?]
    | cons d s => by_cases same : c = d <;> simp [Text.dropStart?, same, ih, eq_comm]

theorem stemmed_inj {stem a b : String} : stemmed stem a = stemmed stem b ↔ a = b := by
  unfold stemmed
  split
  · rfl
  · simp [← String.toList_inj]

/-- The name of a namespace without the stem that it may carry. -/
def bareName (stem namespaceName : String) : String :=
  if stem.isEmpty then namespaceName
  else
    match Text.dropStart? stem.toList namespaceName.toList with
    | some ('_' :: rest) => String.ofList rest
    | _ => namespaceName

theorem metricName_eq_stemmed (stem namespaceName column : String) :
    metricName stem namespaceName column =
      stemmed stem (bareName stem namespaceName ++ "_" ++ column) := by
  unfold metricName stemmed bareName
  by_cases empty : stem.isEmpty
  · simp [empty]
  · cases carried : Text.dropStart? stem.toList namespaceName.toList with
    | none => simp [empty, String.append_assoc]
    | some rest =>
      rcases rest with _ | ⟨c, rest⟩
      · simp [empty, String.append_assoc]
      · by_cases underscore : c = '_'
        · subst underscore
          simp [empty, ← String.toList_inj, Text.dropStart?_eq_some.mp carried]
        · simp [empty, underscore, String.append_assoc]

/-- Within a namespace the name tells the column. -/
theorem metricName_inj {stem namespaceName a b : String} :
    metricName stem namespaceName a = metricName stem namespaceName b ↔ a = b := by
  rw [metricName_eq_stemmed, metricName_eq_stemmed, stemmed_inj]
  simp [← String.toList_inj]

/-- What is left of a namespace is the end of it. -/
theorem bareName_suffix (stem namespaceName : String) :
    (bareName stem namespaceName).toList <:+ namespaceName.toList := by
  unfold bareName
  split
  · exact List.suffix_rfl
  · split
    case h_1 rest carried =>
      rw [Text.dropStart?_eq_some.mp carried, String.toList_ofList]
      exact ⟨stem.toList ++ ['_'], by simp⟩
    case h_2 => exact List.suffix_rfl

/-- A namespace of one word carries no stem. -/
theorem bareName_of_notMem {namespaceName : String} (h : '_' ∉ namespaceName.toList)
    (stem : String) : bareName stem namespaceName = namespaceName := by
  unfold bareName
  split
  · rfl
  · split
    case h_1 rest carried =>
      rw [Text.dropStart?_eq_some.mp carried] at h
      simp at h
    case h_2 => rfl

end PgMetrics
