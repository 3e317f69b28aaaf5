import PgMetrics.Mapping.Schema
import PgMetrics.Proofs.Dict

/-!
# The rules of a compiled namespace

The rule of a declared column depends on its own declaration only: the columns are taken in
ascending order, and a histogram column stands before the columns whose names begin with its name.
The other columns with a rule are those that a histogram column claims, and they are dropped.

## Main definitions

* `Namespace.ownRule` — the rule that a declaration calls for.
* `Namespace.Claims` — the columns that a histogram column claims.
* `Namespace.describe` — the descriptors of a compiled namespace.

## Main results

* `Namespace.rules_follow_declarations` — which columns have a rule, and what decides on it.
-/

namespace PgMetrics.Namespace

/-- The rule that the declaration of a column calls for. -/
def ownRule (v : Version) (describe : String → String → Descriptor) (name : String) (c : Column) :
    Rule :=
  if c.isSupported v then ruleOf describe name c else .dropped

/-- The columns that a histogram column claims. -/
def Claims (column : String × Column) (name : String) : Prop :=
  column.2.usage = .histogram ∧ name ∈ histogramEndings.map (column.1 ++ ·)

instance (column : String × Column) (name : String) : Decidable (Claims column name) :=
  inferInstanceAs (Decidable (_ ∧ _))

theorem not_append_lt (a s : String) : ¬ a ++ s < a := by
  change ¬ (a ++ s).toList < a.toList
  rw [String.toList_append]
  exact List.not_lt.mpr List.le_append_left

/-- A histogram column claims no column that stands before it. -/
theorem not_claims_of_lt {column : String × Column} {name : String}
    (h : compare name column.1 = .lt) : ¬ Claims column name := by
  rintro ⟨-, claimed⟩
  obtain ⟨ending, -, rfl⟩ := List.mem_map.mp claimed
  exact not_append_lt _ _ (compareOfLessAndEq_eq_lt.mp h)

section Folding

variable (v : Version) (describe : String → String → Descriptor)

theorem get?_foldl_insert_dropped (names : List String) (rules : Dict String Rule) (k : String) :
    (names.foldl (fun r name => r.insert name .dropped) rules).get? k =
      if k ∈ names then some .dropped else rules.get? k := by
  induction names generalizing rules with
  | nil => simp
  | cons name rest ih =>
    rw [List.foldl_cons, ih, Dict.get?_insert]
    by_cases hk : k ∈ rest <;> by_cases hn : k = name <;> simp [hk, hn]

theorem get?_addRules (rules : Dict String Rule) (column : String × Column) (k : String) :
    (addRules v describe rules column).get? k =
      if k = column.1 then some (ownRule v describe column.1 column.2)
      else if Claims column k then some .dropped
      else rules.get? k := by
  unfold addRules
  rw [Dict.get?_insert]
  by_cases hk : k = column.1
  · simp [hk, ownRule]
  · have := get?_foldl_insert_dropped (histogramEndings.map (column.1 ++ ·)) rules k
    rw [List.foldl_map] at this
    by_cases usage : column.2.usage = .histogram <;> simp [hk, usage, Claims, this]

/-- Columns that stand later leave a rule alone. -/
theorem get?_foldl_of_lt {columns : List (String × Column)} {k : String}
    (h : ∀ c ∈ columns, compare k c.1 = .lt) (rules : Dict String Rule) :
    (columns.foldl (addRules v describe) rules).get? k = rules.get? k := by
  induction columns generalizing rules with
  | nil => rfl
  | cons column rest ih =>
    obtain ⟨first, others⟩ := List.forall_mem_cons.mp h
    have ne : k ≠ column.1 := by
      rintro rfl
      simp at first
    rw [List.foldl_cons, ih others, get?_addRules, if_neg ne, if_neg (not_claims_of_lt first)]

theorem get?_foldl_of_mem {columns : List (String × Column)} {k : String} {c : Column}
    (ascending : columns.Pairwise fun a b => compare a.1 b.1 = .lt) (mem : (k, c) ∈ columns)
    (rules : Dict String Rule) :
    (columns.foldl (addRules v describe) rules).get? k = some (ownRule v describe k c) := by
  induction columns generalizing rules with
  | nil => cases mem
  | cons column rest ih =>
    obtain ⟨first, others⟩ := List.pairwise_cons.mp ascending
    rw [List.foldl_cons]
    rcases List.mem_cons.mp mem with rfl | mem
    · -- its own rule is put over what was claimed before, and no later column claims it
      rw [get?_foldl_of_lt v describe first, get?_addRules, if_pos rfl]
    · exact ih others mem _

theorem get?_foldl_of_undeclared {columns : List (String × Column)} {k : String}
    (h : ∀ c ∈ columns, k ≠ c.1) (rules : Dict String Rule) :
    (columns.foldl (addRules v describe) rules).get? k =
      if ∃ c ∈ columns, Claims c k then some .dropped else rules.get? k := by
  induction columns generalizing rules with
  | nil => simp
  | cons column rest ih =>
    obtain ⟨first, others⟩ := List.forall_mem_cons.mp h
    rw [List.foldl_cons, ih others, get?_addRules, if_neg first]
    by_cases claimed : Claims column k <;> by_cases later : ∃ c ∈ rest, Claims c k <;>
      simp [claimed, later]

end Folding

/-! ## Compiled namespaces -/

theorem mem_labelColumns {n : Namespace} {v : Version} {column : String} :
    column ∈ n.labelColumns v ↔
      ∃ c, n.columns.get? column = some c ∧ c.usage = .label ∧ c.isSupported v := by
  simp [labelColumns, Dict.get?_eq_some_iff]

variable (n : Namespace) (v : Version) (namespaceName stem : String)
  (constLabels : Dict String String)

/-- The descriptor under which a column is exported. -/
def describe (column help : String) : Descriptor :=
  ⟨metricName stem namespaceName column, help, n.labelColumns v, constLabels⟩

theorem compile_rules_of_declared {k : String} {c : Column} (h : n.columns.get? k = some c) :
    (n.compile v namespaceName stem constLabels).rules.get? k =
      some (ownRule v (n.describe v namespaceName stem constLabels) k c) :=
  get?_foldl_of_mem _ _ n.columns.ascending (Dict.get?_eq_some_iff.mp h) _

theorem compile_rules_of_undeclared {k : String} (h : n.columns.get? k = none) :
    (n.compile v namespaceName stem constLabels).rules.get? k =
      if ∃ c ∈ n.columns.toList, Claims c k then some .dropped else none := by
  refine get?_foldl_of_undeclared _ _ (fun c mem => ?_) _
  rintro rfl
  exact Dict.get?_eq_none_iff.mp h c.2 mem

/-- A rule that does not drop its column is the one that the declaration of the column calls for,
and the version has the column. -/
theorem declared_of_compile_rules {k : String} {rule : Rule}
    (h : (n.compile v namespaceName stem constLabels).rules.get? k = some rule)
    (kept : rule.discard = false) :
    ∃ c, n.columns.get? k = some c ∧ c.isSupported v ∧
      rule = ruleOf (n.describe v namespaceName stem constLabels) k c := by
  cases declared : n.columns.get? k with
  | none =>
    rw [compile_rules_of_undeclared n v namespaceName stem constLabels declared] at h
    split at h
    · cases h
      cases kept
    · cases h
  | some c =>
    rw [compile_rules_of_declared n v namespaceName stem constLabels declared] at h
    cases h
    unfold ownRule at kept ⊢
    by_cases supported : c.isSupported v
    · simp [supported]
    · simp [supported, Rule.dropped] at kept

/-! ## What decides on a rule -/

variable {n v namespaceName stem constLabels}

theorem claims_iff {c k : String} {declaration : Column} :
    Claims (c, declaration) k ↔
      declaration.usage = .histogram ∧
        (k = c ++ "_bucket" ∨ k = c ++ "_sum" ∨ k = c ++ "_count") := by
  simp [Claims, histogramEndings]

/-- The columns with a rule are the declared ones and those that a histogram column claims. -/
theorem mem_keys_compile_rules {k : String} :
    k ∈ (n.compile v namespaceName stem constLabels).rules.keys ↔
      k ∈ n.columns.keys ∨ ∃ c ∈ n.columns.toList, Claims c k := by
  rw [← Dict.contains_iff_mem_keys, ← Dict.contains_iff_mem_keys]
  unfold Dict.contains
  cases declared : n.columns.get? k with
  | some c => simp [compile_rules_of_declared _ _ _ _ _ declared]
  | none =>
    rw [compile_rules_of_undeclared _ _ _ _ _ declared]
    by_cases claimed : ∃ c ∈ n.columns.toList, Claims c k <;> simp [claimed]

theorem eq_dropped_of_undeclared {k : String} {rule : Rule} (undeclared : k ∉ n.columns.keys)
    (found : (n.compile v namespaceName stem constLabels).rules.get? k = some rule) :
    rule = .dropped := by
  rw [compile_rules_of_undeclared _ _ _ _ _ (Dict.notMem_keys_iff.mp undeclared)] at found
  split at found
  · exact (Option.some.inj found).symm
  · cases found

theorem ascending_labelColumns (n : Namespace) (v : Version) :
    (n.labelColumns v).Pairwise (· < ·) := by
  unfold labelColumns
  rw [List.pairwise_map]
  refine (n.columns.ascending.filter _).imp fun before => ?_
  exact compareOfLessAndEq_eq_lt.mp before

/-- Exactly the declared columns and the three columns of every declared histogram have a rule. A
declared column has the rule that its own declaration calls for, whatever is declared beside it; a
column that is not declared is dropped. The labels are the label columns that the version has, in
ascending order. -/
theorem rules_follow_declarations (n : Namespace) (v : Version) (namespaceName stem : String)
    (constLabels : Dict String String) :
    let s := n.compile v namespaceName stem constLabels
    (∀ k, k ∈ s.rules.keys ↔ k ∈ n.columns.keys ∨
      ∃ c declaration, n.columns.get? c = some declaration ∧ declaration.usage = .histogram ∧
        (k = c ++ "_bucket" ∨ k = c ++ "_sum" ∨ k = c ++ "_count")) ∧
    (∀ k c, n.columns.get? k = some c →
      s.rules.get? k = some (ownRule v (n.describe v namespaceName stem constLabels) k c)) ∧
    (∀ k c (n' : Namespace) (v' : Version), n.columns.get? k = some c →
      n'.columns.get? k = some c → c.isSupported v' = c.isSupported v →
        n'.labelColumns v' = n.labelColumns v →
          (n'.compile v' namespaceName stem constLabels).rules.get? k = s.rules.get? k) ∧
    (∀ k rule, k ∉ n.columns.keys → s.rules.get? k = some rule → rule = .dropped) ∧
    s.labels.Pairwise (· < ·) ∧
    ∀ label, label ∈ s.labels ↔
      ∃ c, n.columns.get? label = some c ∧ c.usage = .label ∧ c.isSupported v := by
  intro s
  refine ⟨fun k => ?_, fun k c => compile_rules_of_declared n v namespaceName stem constLabels, ?_,
    fun k rule => eq_dropped_of_undeclared, ascending_labelColumns n v,
    fun label => mem_labelColumns⟩
  · rw [mem_keys_compile_rules]
    simp only [Prod.exists, ← Dict.get?_eq_some_iff, claims_iff]
  · intro k c n' v' declared declared' support labels
    rw [compile_rules_of_declared n v namespaceName stem constLabels declared,
      compile_rules_of_declared n' v' namespaceName stem constLabels declared']
    unfold ownRule describe
    rw [support, labels]

namespace Chain

/-- Two histogram columns and a counter, each of which but the first is named like a column that
belongs to the one before it. The second histogram came with release 14. -/
def view : Namespace where
  columns := .ofList [
    ("wait", .plain .histogram "Wait"),
    ("wait_sum", ⟨.histogram, "Sum", none, some (VersionRange.atLeast ⟨14, 0, 0⟩)⟩),
    ("wait_sum_count", .plain .counter "Count"),
    ("slot", .plain .label "Slot")]
  masterOnly := false
  cacheSeconds := 0

/-- The release before. -/
def release : Version := ⟨13, 0, 0⟩

/-- The counter alone, with the label. -/
def counterAlone : Namespace where
  columns := .ofList [("wait_sum_count", .plain .counter "Count"), ("slot", .plain .label "Slot")]
  masterOnly := false
  cacheSeconds := 0

/-- The counter is a counter as it would be without the histograms, and the second histogram claims
its columns also where the release does not have it. -/
theorem rules_of_chain :
    ((counterAlone.compile release "pg_x" "pg" .empty).rules.get? "wait_sum_count" =
        (view.compile release "pg_x" "pg" .empty).rules.get? "wait_sum_count" ∧
      ((view.compile release "pg_x" "pg" .empty).rules.get? "wait_sum_count").map (·.kind) =
        some .counter) ∧
    "wait_sum_bucket" ∈ (view.compile release "pg_x" "pg" .empty).rules.keys ∧
    "wait_count_sum" ∉ (view.compile release "pg_x" "pg" .empty).rules.keys ∧
    (view.compile release "pg_x" "pg" .empty).labels = ["slot"] := by
  obtain ⟨keys, own, alone, -⟩ := view.rules_follow_declarations release "pg_x" "pg" .empty
  refine ⟨⟨alone "wait_sum_count" _ counterAlone release rfl rfl rfl (by decide +kernel), ?_⟩,
    (keys _).mpr (.inr ⟨"wait_sum", _, rfl, rfl, .inl rfl⟩), by decide +kernel, by decide +kernel⟩
  rw [own "wait_sum_count" _ rfl]
  rfl

end Chain

end PgMetrics.Namespace
