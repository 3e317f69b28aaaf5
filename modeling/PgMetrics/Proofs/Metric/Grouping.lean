import Mathlib
import PgMetrics.Proofs.Metric.Families
import PgMetrics.Proofs.Metric.Labels

/-!
# Grouping is a stable partition

Every metric becomes one sample, in the family of its name, and the samples of a family keep the
order of their metrics. So the families are decided by the metrics of each name, however metrics of
different names are mixed.

## Main results

* `Family.sum_length_samples` — no metric is lost and none is doubled.
* `Family.group_congr` — metrics of different names may be mixed in any way.
* `Family.grouping_is_stable_partition` — families, samples and labels.
-/

namespace PgMetrics.Family

theorem length_samples_of_mem_group {metrics : List Metric} {f : Family} (h : f ∈ group metrics) :
    f.samples.length = (metrics.map Metric.name).count f.name := by
  rw [samples_of_mem_group h, List.length_map, List.count, List.countP_map,
    List.countP_eq_length_filter]
  rfl

theorem map_name_group_perm (metrics : List Metric) :
    ((group metrics).map (·.name)).Perm (metrics.map Metric.name).dedup := by
  have distinct : ((group metrics).map (·.name)).Nodup := by
    refine (pairwise_name_group metrics).imp fun before => ?_
    rintro rfl
    exact String.lt_irrefl _ before
  refine (List.perm_ext_iff_of_nodup distinct (List.nodup_dedup _)).mpr fun name => ?_
  rw [mem_name_group, List.mem_dedup, List.mem_map]

/-- There are as many samples as metrics. -/
theorem sum_length_samples (metrics : List Metric) :
    ((group metrics).map (·.samples.length)).sum = metrics.length := by
  have counts : (group metrics).map (·.samples.length) =
      ((group metrics).map (·.name)).map fun name => (metrics.map Metric.name).count name := by
    rw [List.map_map]
    exact List.map_congr_left fun f mem => length_samples_of_mem_group mem
  rw [counts, ((map_name_group_perm metrics).map _).sum_eq, List.sum_map_count_dedup_eq_length,
    List.length_map]

/-- Lists with the same metrics of every name have the same families. -/
theorem group_congr {metrics metrics' : List Metric}
    (same : ∀ name, (metrics'.filter fun m => m.name == name) =
      metrics.filter fun m => m.name == name) :
    group metrics' = group metrics := by
  have families : metrics'.foldl add .empty = metrics.foldl add .empty := by
    refine Dict.ext_get? fun name => ?_
    rw [get?_foldl_add, get?_foldl_add, same]
  rw [group, group, families]

/-- There is one family for every name that a metric has, and they stand in the order of their
names. The first metric of a name gives the family its help and its type, and the metrics of the
name, in their order and no others, become its samples; so there are as many samples as metrics.
Which families there are does not depend on how metrics of different names are mixed. -/
theorem grouping_is_stable_partition (metrics : List Metric) :
    ((group metrics).map (·.name)).Pairwise (· < ·) ∧
    (∀ name, name ∈ (group metrics).map (·.name) ↔ name ∈ metrics.map Metric.name) ∧
    (∀ f ∈ group metrics,
      (∃ first, IsFirst metrics first ∧ first.name = f.name ∧ f.help = first.descriptor.help ∧
        f.type = .ofReading first.reading) ∧
      List.Forall₂ Metric.Exposes (metrics.filter fun m => m.name == f.name) f.samples) ∧
    ((group metrics).map (·.samples.length)).sum = metrics.length ∧
    ∀ metrics', (∀ name, (metrics'.filter fun m => m.name == name) =
        metrics.filter fun m => m.name == name) →
      group metrics' = group metrics := by
  refine ⟨pairwise_name_group metrics, fun name => ?_, fun f mem => ⟨?_, ?_⟩,
    sum_length_samples metrics, fun metrics' same => group_congr same⟩
  · rw [mem_name_group, List.mem_map]
  · obtain ⟨first, founds, rfl⟩ := eq_founded_of_mem_group mem
    exact ⟨first, founds, rfl, rfl, rfl⟩
  · rw [samples_of_mem_group mem, List.forall₂_map_right_iff, List.forall₂_same]
    exact fun m _ => m.exposes_sample

namespace Mixed

def size (help : String) (kind : MetricKind) (slot : String) : Metric :=
  .scalar ⟨"pg_x_size", help, ["slot"], .ofList [("server", "db:5432")]⟩ kind 1.0 [slot]

def hits : Metric := .scalar ⟨"pg_x_hits", "Hits", [], .empty⟩ .counter 2.0 []

/-- Two metrics of one name, which differ in help and kind, and between them one of another
name. -/
def metrics : List Metric := [size "Size" .gauge "a", hits, size "Bytes" .counter "b"]

/-- The same with the other name at the end. -/
def hitsLast : List Metric := [size "Size" .gauge "a", size "Bytes" .counter "b", hits]

/-- Both give the families of the two names, of which the later has help and type of the metric
that comes first. -/
theorem families_of_mixed :
    (∀ name, (hitsLast.filter fun m => m.name == name) =
      metrics.filter fun m => m.name == name) ∧
    group hitsLast = group metrics ∧
    (group metrics).map (fun f => (f.name, f.help, f.type, f.samples.length)) =
      [("pg_x_hits", "Hits", .counter, 1), ("pg_x_size", "Size", .gauge, 2)] := by
  have same (name : String) : (hitsLast.filter fun m => m.name == name) =
      metrics.filter fun m => m.name == name := by
    by_cases isHits : "pg_x_hits" = name
    · subst isHits
      rfl
    · have other : (hits.name == name) = false := beq_false_of_ne isHits
      simp [hitsLast, metrics, List.filter_cons, other]
  obtain ⟨-, -, -, -, mixed⟩ := grouping_is_stable_partition metrics
  exact ⟨same, mixed hitsLast same, by decide +kernel⟩

end Mixed

end PgMetrics.Family
