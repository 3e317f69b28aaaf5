import Mathlib.Data.List.Induction
import PgMetrics.Metric.Family
import PgMetrics.Proofs.Dict

/-!
# Grouping metrics into families

There is a family for every name that a metric has, and they stand in the order of their names. The
help and the type of a family come from the first metric of the name, and its samples are all
metrics of the name in their order.

## Main definitions

* `Family.ofMetrics?` — the family of metrics that share their name.
-/

namespace PgMetrics.Family

/-- The family of metrics of one name; there is none without a metric. -/
def ofMetrics? (name : String) (metrics : List Metric) : Option Family :=
  metrics.head?.map fun first =>
    ⟨name, first.descriptor.help, .ofReading first.reading, metrics.map Metric.sample⟩

/-- The family that a metric comes to, after the family of its name before. -/
def extended (known : Option Family) (m : Metric) : Family :=
  let family := known.getD ⟨m.name, m.descriptor.help, .ofReading m.reading, []⟩
  { family with samples := family.samples ++ [m.sample] }

theorem get?_add (families : Dict String Family) (m : Metric) (name : String) :
    (add families m).get? name =
      if name = m.name then some (extended (families.get? m.name) m) else families.get? name := by
  unfold add
  rw [Dict.get?_insert]
  by_cases same : name = m.name <;> simp [same, extended]

theorem ofMetrics?_concat (m : Metric) (metrics : List Metric) :
    ofMetrics? m.name (metrics ++ [m]) = some (extended (ofMetrics? m.name metrics) m) := by
  cases metrics <;> simp [ofMetrics?, extended]

/-- The family of a name is made of the metrics of the name. -/
theorem get?_foldl_add (metrics : List Metric) (name : String) :
    (metrics.foldl add .empty).get? name =
      ofMetrics? name (metrics.filter fun m => m.name == name) := by
  induction metrics using List.reverseRecOn with
  | nil => rfl
  | append_singleton rest m ih =>
    rw [List.foldl_append, List.foldl_cons, List.foldl_nil, List.filter_append, get?_add]
    by_cases same : name = m.name
    · subst same
      simp [ih, ofMetrics?_concat]
    · have other : ¬ m.name = name := fun h => same h.symm
      simp [ih, same, other]

theorem mem_group {metrics : List Metric} {f : Family} :
    f ∈ group metrics ↔
      ∃ name, ofMetrics? name (metrics.filter fun m => m.name == name) = some f := by
  unfold group Dict.values
  simp only [List.mem_map, ← get?_foldl_add, Dict.get?_eq_some_iff, Dict.toList, Prod.exists]
  constructor
  · rintro ⟨name, _, mem, rfl⟩
    exact ⟨name, mem⟩
  · rintro ⟨name, mem⟩
    exact ⟨name, f, mem, rfl⟩

theorem name_of_ofMetrics? {name : String} {metrics : List Metric} {f : Family}
    (h : ofMetrics? name metrics = some f) : f.name = name := by
  obtain ⟨m, -, rfl⟩ := Option.map_eq_some_iff.mp h
  rfl

theorem mem_group_iff {metrics : List Metric} {f : Family} :
    f ∈ group metrics ↔ ofMetrics? f.name (metrics.filter fun m => m.name == f.name) = some f := by
  rw [mem_group]
  constructor
  · rintro ⟨name, made⟩
    rwa [name_of_ofMetrics? made]
  · exact fun made => ⟨f.name, made⟩

/-- There is one family of a name. -/
theorem eq_of_mem_group {metrics : List Metric} {f g : Family} (hf : f ∈ group metrics)
    (hg : g ∈ group metrics) (same : f.name = g.name) : f = g := by
  rw [mem_group_iff] at hf hg
  rw [same, hg] at hf
  exact (Option.some.inj hf).symm

/-- The samples of a family are the metrics of its name in their order. -/
theorem samples_of_mem_group {metrics : List Metric} {f : Family} (h : f ∈ group metrics) :
    f.samples = (metrics.filter fun m => m.name == f.name).map Metric.sample := by
  obtain ⟨m, -, made⟩ := Option.map_eq_some_iff.mp (mem_group_iff.mp h)
  rw [← made]

theorem map_name_group (metrics : List Metric) :
    (group metrics).map (·.name) = (metrics.foldl add .empty).keys := by
  unfold group Dict.values Dict.keys
  rw [List.map_map]
  refine List.map_congr_left fun e mem => ?_
  have bound := Dict.get?_eq_some_iff.mpr mem
  rw [get?_foldl_add] at bound
  exact name_of_ofMetrics? bound

/-- Families stand in the order of their names, and no two have one name. -/
theorem pairwise_name_group (metrics : List Metric) :
    ((group metrics).map (·.name)).Pairwise (· < ·) := by
  rw [map_name_group]
  exact List.pairwise_map.mpr
    ((metrics.foldl add .empty).ascending.imp fun h => compareOfLessAndEq_eq_lt.mp h)

/-- The first metric of its name. -/
def IsFirst (metrics : List Metric) (m : Metric) : Prop :=
  (metrics.filter fun other => other.name == m.name).head? = some m

theorem IsFirst.mem {metrics : List Metric} {m : Metric} (h : IsFirst metrics m) : m ∈ metrics :=
  (List.mem_filter.mp (List.mem_of_head? h)).1

theorem IsFirst.eq_of_name {metrics : List Metric} {m m' : Metric} (h : IsFirst metrics m)
    (h' : IsFirst metrics m') (same : m.name = m'.name) : m = m' := by
  unfold IsFirst at h h'
  rw [same, h'] at h
  exact (Option.some.inj h).symm

/-- A family is made of the metrics of its name, the first of which founds it. -/
theorem eq_founded_of_mem_group {metrics : List Metric} {f : Family} (h : f ∈ group metrics) :
    ∃ first, IsFirst metrics first ∧ f = ⟨first.name, first.descriptor.help,
      .ofReading first.reading,
      (metrics.filter fun m => m.name == first.name).map Metric.sample⟩ := by
  obtain ⟨first, head, made⟩ := Option.map_eq_some_iff.mp (mem_group_iff.mp h)
  have named : first.name = f.name := eq_of_beq (List.mem_filter.mp (List.mem_of_head? head)).2
  refine ⟨first, ?_, ?_⟩
  · rwa [IsFirst, named]
  · rw [named]
    exact made.symm

theorem isFirst_of_mem_group {metrics : List Metric} {f : Family} (h : f ∈ group metrics) :
    ∃ m, IsFirst metrics m ∧ f.name = m.name ∧ f.type = .ofReading m.reading ∧ f.samples ≠ [] := by
  obtain ⟨m, first, rfl⟩ := eq_founded_of_mem_group h
  refine ⟨m, first, rfl, rfl, fun empty => ?_⟩
  rw [IsFirst, List.map_eq_nil_iff.mp empty] at first
  cases first

theorem exists_mem_group_of_isFirst {metrics : List Metric} {m : Metric} (h : IsFirst metrics m) :
    ∃ f ∈ group metrics, f.name = m.name ∧ f.type = .ofReading m.reading :=
  ⟨_, mem_group.mpr ⟨m.name, congrArg (Option.map _) h⟩, rfl, rfl⟩

/-- Names of families are names of metrics. -/
theorem mem_name_group {metrics : List Metric} {name : String} :
    name ∈ (group metrics).map (·.name) ↔ ∃ m ∈ metrics, m.name = name := by
  constructor
  · intro h
    obtain ⟨f, mem, rfl⟩ := List.mem_map.mp h
    obtain ⟨m, first, same, -⟩ := isFirst_of_mem_group mem
    exact ⟨m, first.mem, same.symm⟩
  · rintro ⟨m, mem, rfl⟩
    have some : m ∈ metrics.filter fun other => other.name == m.name := by simp [mem]
    have made : ((metrics.filter fun other => other.name == m.name).head?).isSome = true := by
      rw [List.isSome_head?]
      exact List.ne_nil_of_mem some
    obtain ⟨first, head⟩ := Option.isSome_iff_exists.mp made
    exact List.mem_map.mpr ⟨_, mem_group.mpr ⟨m.name, congrArg (Option.map _) head⟩, rfl⟩

/-- A metric is in the family of its name, which has the type of the first metric of the name. -/
theorem exists_family_of_mem {metrics : List Metric} {m : Metric} (mem : m ∈ metrics) :
    ∃ f ∈ group metrics, f.name = m.name ∧ m.sample ∈ f.samples ∧
      ∃ first, IsFirst metrics first ∧ first.name = m.name ∧
        f.type = .ofReading first.reading := by
  obtain ⟨f, grouped, named⟩ := List.mem_map.mp (mem_name_group.mpr ⟨m, mem, rfl⟩)
  refine ⟨f, grouped, named, ?_, ?_⟩
  · rw [samples_of_mem_group grouped, named]
    exact List.mem_map_of_mem (List.mem_filter.mpr ⟨mem, beq_self_eq_true m.name⟩)
  · obtain ⟨first, founds, same, type, -⟩ := isFirst_of_mem_group grouped
    exact ⟨first, founds, same.symm.trans named, type⟩

end PgMetrics.Family
