import PgMetrics.Mapping.Catalog
import PgMetrics.Proofs.Dict
import PgMetrics.Proofs.Outcome
import PgMetrics.Proofs.Version.Overlap

/-!
# Queries that do not overlap

A table that passes the check has at most one query of a namespace for any version, so the order of
the candidates does not matter and a look-up tells exactly whether there is one. A table that does
not pass is reported with its first clash.

## Main definitions

* `QueryTable.Clash`, `QueryTable.FirstClash` — pairs of candidates that overlap.
* `QueryTable.Unambiguous` — what the check is for.
-/

namespace PgMetrics.QueryTable

/-- A namespace and two places among its candidates. -/
structure Place where
  namespaceName : String
  first : Nat
  second : Nat

/-- Places are ordered by namespace, then by the first candidate and then by the second. -/
def Place.Before (p q : Place) : Prop :=
  p.namespaceName < q.namespaceName ∨
    p.namespaceName = q.namespaceName ∧
      (p.first < q.first ∨ p.first = q.first ∧ p.second < q.second)

/-- Two candidates of a list, one after the other, whose ranges overlap. -/
structure ListClash (l : List VersionedQuery) (i j : Nat) (c d : VersionedQuery) : Prop where
  first : l[i]? = some c
  second : l[j]? = some d
  ordered : i < j
  overlaps : VersionRange.overlaps c.versions d.versions

/-- Two candidates of a namespace, one after the other, whose ranges overlap. -/
def Clash (t : QueryTable) (p : Place) (c d : VersionedQuery) : Prop :=
  ∃ l, t.get? p.namespaceName = some l ∧ ListClash l p.first p.second c d

/-- A clash with no other before it. -/
structure FirstClash (t : QueryTable) (p : Place) (c d : VersionedQuery) : Prop where
  clash : t.Clash p c d
  earliest : ∀ q c' d', t.Clash q c' d' → ¬ q.Before p

/-- At most one candidate of a list holds for a version. -/
def Exclusive (v : Version) (l : List VersionedQuery) : Prop :=
  ∀ (i j : Nat) c d, l[i]? = some c → l[j]? = some d →
    VersionRange.admits c.versions v → VersionRange.admits d.versions v → i = j

/-- At most one query of a namespace is for a version, and look-ups tell which. -/
structure Unambiguous (t : QueryTable) : Prop where
  exclusive : ∀ v ns l, t.get? ns = some l → Exclusive v l
  reordered : ∀ v (t' : QueryTable), (∀ ns, Option.Rel List.Perm (t.get? ns) (t'.get? ns)) →
    t'.resolve v = t.resolve v
  custom : ∀ v ns q, Resolution.of (t.resolve v) ns = .custom q ↔
    ∃ l, t.get? ns = some l ∧ ∃ c ∈ l, VersionRange.admits c.versions v ∧ c.sql = q ∧ q ≠ ""
  disabled : ∀ v ns, Resolution.of (t.resolve v) ns = .disabled ↔
    ∃ l, t.get? ns = some l ∧ ((∀ c ∈ l, ¬ VersionRange.admits c.versions v) ∨
      ∃ c ∈ l, VersionRange.admits c.versions v ∧ c.sql = "")
  notConfigured : ∀ v ns, Resolution.of (t.resolve v) ns = .notConfigured ↔ t.get? ns = none

/-! ## Clashes in a list -/

theorem ListClash.cons {l : List VersionedQuery} {i j : Nat} {b c d : VersionedQuery}
    (h : ListClash l i j c d) : ListClash (b :: l) (i + 1) (j + 1) c d :=
  ⟨by simpa using h.first, by simpa using h.second, by simpa using h.ordered, h.overlaps⟩

theorem listClash_cons {l : List VersionedQuery} {i j : Nat} {b c d : VersionedQuery}
    (h : ListClash (b :: l) i j c d) :
    (i = 0 ∧ c = b ∧ ∃ k, j = k + 1 ∧ l[k]? = some d) ∨
      ∃ i' j', i = i' + 1 ∧ j = j' + 1 ∧ ListClash l i' j' c d := by
  obtain ⟨first, second, ordered, overlaps⟩ := h
  obtain ⟨k, rfl⟩ : ∃ k, j = k + 1 := ⟨j - 1, by omega⟩
  cases i with
  | zero => exact .inl ⟨rfl, by simpa using first.symm, k, rfl, by simpa using second⟩
  | succ i =>
    exact .inr ⟨i, k, rfl, rfl, by simpa using first, by simpa using second, by omega, overlaps⟩

/-- What the search in a list finds comes before every other clash. -/
theorem listClash_of_firstClash? {l : List VersionedQuery} {c d : VersionedQuery}
    (h : firstClash? l = some (c, d)) :
    ∃ i j, ListClash l i j c d ∧
      ∀ i' j' c' d', ListClash l i' j' c' d' → i < i' ∨ i = i' ∧ j ≤ j' := by
  induction l with
  | nil => cases h
  | cons b rest ih =>
    unfold firstClash? at h
    split at h
    case h_1 found =>
      cases h
      -- the clash is between the head and the first later candidate that overlaps it
      obtain ⟨overlaps, k, hk, rfl, before⟩ := List.find?_eq_some_iff_getElem.mp found
      refine ⟨0, k + 1, ⟨rfl, by simp, by omega, overlaps⟩, fun i' j' c' d' other => ?_⟩
      rcases listClash_cons other with ⟨rfl, rfl, k', rfl, hk'⟩ | ⟨i', j', rfl, rfl, -⟩
      · obtain ⟨hlt, rfl⟩ := List.getElem?_eq_some_iff.mp hk'
        refine .inr ⟨rfl, Nat.le_of_not_lt fun earlier => ?_⟩
        have := before k' (by omega)
        simp [other.overlaps] at this
      · exact .inl (by omega)
    case h_2 noneFound =>
      -- the head overlaps none of the others, so every clash lies behind it
      obtain ⟨i, j, clash, earliest⟩ := ih h
      refine ⟨i + 1, j + 1, clash.cons, fun i' j' c' d' other => ?_⟩
      rcases listClash_cons other with ⟨rfl, rfl, k, rfl, hk⟩ | ⟨i', j', rfl, rfl, clash'⟩
      · have := List.find?_eq_none.mp noneFound d' (List.mem_of_getElem? hk)
        exact absurd other.overlaps this
      · have := earliest _ _ _ _ clash'
        omega

theorem not_listClash_of_firstClash? {l : List VersionedQuery} (h : firstClash? l = none)
    (i j : Nat) (c d : VersionedQuery) : ¬ ListClash l i j c d := by
  induction l generalizing i j with
  | nil => exact fun clash => by simpa using clash.first
  | cons b rest ih =>
    unfold firstClash? at h
    split at h
    case h_1 => cases h
    case h_2 noneFound =>
      intro clash
      rcases listClash_cons clash with ⟨rfl, rfl, k, rfl, hk⟩ | ⟨i', j', rfl, rfl, other⟩
      · exact List.find?_eq_none.mp noneFound d (List.mem_of_getElem? hk) clash.overlaps
      · exact ih h i' j' other

/-! ## The check of a table -/

theorem validateNamespace_eq_ok {entry : String × List VersionedQuery} :
    validateNamespace entry = .ok () ↔ firstClash? entry.2 = none := by
  unfold validateNamespace
  cases firstClash? entry.2 <;> simp

theorem validateNamespace_eq_error {entry : String × List VersionedQuery} {e : ConfigError} :
    validateNamespace entry = .error e ↔ ∃ c d, firstClash? entry.2 = some (c, d) ∧
      e = .overlappingQueries entry.1 (VersionRange.text c.versions)
        (VersionRange.text d.versions) := by
  unfold validateNamespace
  cases firstClash? entry.2 with
  | none => simp
  | some pair =>
    obtain ⟨c, d⟩ := pair
    simp only [Except.error.injEq, Option.some.injEq, Prod.mk.injEq]
    constructor
    · rintro rfl
      exact ⟨c, d, ⟨rfl, rfl⟩, rfl⟩
    · rintro ⟨_, _, ⟨rfl, rfl⟩, rfl⟩
      rfl

/-- A table passes the check when it has no clash. -/
theorem validate_eq_ok {t : QueryTable} :
    t.validate = .ok () ↔ ∀ p c d, ¬ t.Clash p c d := by
  unfold validate
  rw [forM_eq_ok]
  constructor
  · rintro h p c d ⟨l, hl, clash⟩
    have := h _ (Dict.get?_eq_some_iff.mp hl)
    exact not_listClash_of_firstClash? (validateNamespace_eq_ok.mp this) _ _ _ _ clash
  · intro h entry mem
    rw [validateNamespace_eq_ok]
    cases found : firstClash? entry.2 with
    | none => rfl
    | some pair =>
      obtain ⟨i, j, clash, -⟩ := listClash_of_firstClash? found
      exact absurd ⟨entry.2, Dict.get?_eq_some_iff.mpr mem, clash⟩ (h ⟨entry.1, i, j⟩ _ _)

/-- A table that does not pass is reported with its first clash. -/
theorem exists_firstClash_of_validate {t : QueryTable} {e : ConfigError}
    (h : t.validate = .error e) :
    ∃ p c d, t.FirstClash p c d ∧ e = .overlappingQueries p.namespaceName
      (VersionRange.text c.versions) (VersionRange.text d.versions) := by
  obtain ⟨before, entry, after, split, passed, failed⟩ := forM_eq_error.mp h
  obtain ⟨c, d, found, rfl⟩ := validateNamespace_eq_error.mp failed
  obtain ⟨i, j, clash, earliest⟩ := listClash_of_firstClash? found
  have bound : t.get? entry.1 = some entry.2 := by
    rw [Dict.get?_eq_some_iff, split]
    simp
  refine ⟨⟨entry.1, i, j⟩, c, d, ⟨⟨entry.2, bound, clash⟩, ?_⟩, rfl⟩
  rintro q c' d' ⟨l, hl, other⟩ (earlier | ⟨same, earlier⟩)
  · -- of the namespaces only those that passed stand before the entry
    have mem : (q.namespaceName, l) ∈ before ++ entry :: after := by
      rw [← split, ← Dict.get?_eq_some_iff, hl]
    have ascending : (before ++ entry :: after).Pairwise fun a b => compare a.1 b.1 = .lt := by
      rw [← split]
      exact t.ascending
    have order : compare q.namespaceName entry.1 = .lt := compareOfLessAndEq_eq_lt.mpr earlier
    rcases List.mem_append.mp mem with mem | mem
    · have := validateNamespace_eq_ok.mp (passed _ mem)
      exact not_listClash_of_firstClash? this _ _ _ _ other
    · rcases List.mem_cons.mp mem with rfl | mem
      · simp at order
      · have later := (List.pairwise_cons.mp (List.pairwise_append.mp ascending).2.1).1 _ mem
        rw [Std.OrientedCmp.gt_of_lt later] at order
        cases order
  · rw [same, bound, Option.some_inj] at hl
    subst hl
    have := earliest _ _ _ _ other
    dsimp only at earlier
    omega

/-- There is at most one first clash. -/
theorem FirstClash.unique {t : QueryTable} {p q : Place} {c d c' d' : VersionedQuery}
    (h : t.FirstClash p c d) (h' : t.FirstClash q c' d') : p = q ∧ c = c' ∧ d = d' := by
  have notBefore := h.earliest _ _ _ h'.clash
  have notAfter := h'.earliest _ _ _ h.clash
  simp only [Place.Before, not_or, not_and, Nat.not_lt, String.not_lt] at notBefore notAfter
  obtain ⟨ns, i, j⟩ := p
  obtain ⟨ns', i', j'⟩ := q
  obtain rfl : ns = ns' := String.le_antisymm notBefore.1 notAfter.1
  obtain ⟨iLe, jLe⟩ := notBefore.2 rfl
  obtain ⟨iGe, jGe⟩ := notAfter.2 rfl
  obtain rfl : i = i' := Nat.le_antisymm iLe iGe
  obtain rfl : j = j' := Nat.le_antisymm (jLe rfl) (jGe rfl)
  obtain ⟨l, hl, clash⟩ := h.clash
  obtain ⟨l', hl', clash'⟩ := h'.clash
  obtain rfl : l = l' := Option.some.inj (hl.symm.trans hl')
  exact ⟨rfl, Option.some.inj (clash.first.symm.trans clash'.first),
    Option.some.inj (clash.second.symm.trans clash'.second)⟩

theorem validate_eq_error {t : QueryTable} {e : ConfigError} :
    t.validate = .error e ↔ ∃ p c d, t.FirstClash p c d ∧
      e = .overlappingQueries p.namespaceName (VersionRange.text c.versions)
        (VersionRange.text d.versions) := by
  refine ⟨exists_firstClash_of_validate, ?_⟩
  rintro ⟨p, c, d, first, rfl⟩
  cases outcome : t.validate with
  | ok => exact absurd first.clash (validate_eq_ok.mp outcome p c d)
  | error e =>
    obtain ⟨q, c', d', first', rfl⟩ := exists_firstClash_of_validate outcome
    obtain ⟨rfl, rfl, rfl⟩ := first.unique first'
    rfl

/-! ## What the check is for -/

theorem exclusive_of_validate {t : QueryTable} (h : t.validate = .ok ()) {ns : String}
    {l : List VersionedQuery} (hl : t.get? ns = some l) (v : Version) : Exclusive v l := by
  have apart {i j : Nat} {c d : VersionedQuery} (hc : l[i]? = some c) (hd : l[j]? = some d)
      (cv : VersionRange.admits c.versions v) (dv : VersionRange.admits d.versions v) :
      ¬ i < j := fun lt => by
    cases overlap : VersionRange.overlaps c.versions d.versions with
    | false => exact VersionRange.not_admits_of_not_overlaps overlap v ⟨cv, dv⟩
    | true => exact validate_eq_ok.mp h ⟨ns, i, j⟩ c d ⟨l, hl, hc, hd, lt, overlap⟩
  intro i j c d hc hd cv dv
  have := apart hc hd cv dv
  have := apart hd hc dv cv
  omega

/-- What is picked is the query of a candidate that holds, or there is no such candidate. -/
theorem pick_cases (v : Version) (l : List VersionedQuery) :
    (∃ c ∈ l, VersionRange.admits c.versions v ∧ pick v l = c.sql) ∨
      (∀ c ∈ l, ¬ VersionRange.admits c.versions v) ∧ pick v l = "" := by
  unfold pick
  cases found : l.find? fun c => VersionRange.admits c.versions v with
  | none => exact .inr ⟨List.find?_eq_none.mp found, rfl⟩
  | some c =>
    have holds : VersionRange.admits c.versions v := by simpa using List.find?_some found
    exact .inl ⟨c, List.mem_of_find?_eq_some found, holds, rfl⟩

theorem pick_of_mem {v : Version} {l : List VersionedQuery} (h : Exclusive v l)
    {c : VersionedQuery} (mem : c ∈ l) (holds : VersionRange.admits c.versions v) :
    pick v l = c.sql := by
  rcases pick_cases v l with ⟨d, memD, holdsD, picked⟩ | ⟨noneHolds, -⟩
  · obtain ⟨i, hi⟩ := List.mem_iff_getElem?.mp mem
    obtain ⟨j, hj⟩ := List.mem_iff_getElem?.mp memD
    obtain rfl := h i j c d hi hj holds holdsD
    obtain rfl : c = d := Option.some.inj (hi.symm.trans hj)
    exact picked
  · exact absurd holds (noneHolds c mem)

theorem pick_perm {v : Version} {l l' : List VersionedQuery} (h : Exclusive v l)
    (perm : l.Perm l') : pick v l' = pick v l := by
  rcases pick_cases v l' with ⟨c, mem, holds, picked⟩ | ⟨noneHolds, picked⟩
  · rw [picked, pick_of_mem h (perm.mem_iff.mpr mem) holds]
  · rcases pick_cases v l with ⟨c, mem, holds, -⟩ | ⟨-, picked'⟩
    · exact absurd holds (noneHolds c (perm.mem_iff.mp mem))
    · rw [picked, picked']

theorem pick_eq_iff {v : Version} {l : List VersionedQuery} (h : Exclusive v l) {q : String}
    (nonempty : q ≠ "") :
    pick v l = q ↔ ∃ c ∈ l, VersionRange.admits c.versions v ∧ c.sql = q := by
  constructor
  · rintro rfl
    rcases pick_cases v l with ⟨c, mem, holds, picked⟩ | ⟨-, picked⟩
    · exact ⟨c, mem, holds, picked.symm⟩
    · exact absurd picked nonempty
  · rintro ⟨c, mem, holds, rfl⟩
    exact pick_of_mem h mem holds

theorem pick_eq_empty {v : Version} {l : List VersionedQuery} (h : Exclusive v l) :
    pick v l = "" ↔ (∀ c ∈ l, ¬ VersionRange.admits c.versions v) ∨
      ∃ c ∈ l, VersionRange.admits c.versions v ∧ c.sql = "" := by
  constructor
  · intro empty
    rcases pick_cases v l with ⟨c, mem, holds, picked⟩ | ⟨noneHolds, -⟩
    · exact .inr ⟨c, mem, holds, picked.symm.trans empty⟩
    · exact .inl noneHolds
  · rintro (noneHolds | ⟨c, mem, holds, empty⟩)
    · rcases pick_cases v l with ⟨c, mem, holds, -⟩ | ⟨-, picked⟩
      · exact absurd holds (noneHolds c mem)
      · exact picked
    · rw [pick_of_mem h mem holds, empty]

/-! ## Look-ups in the resolved queries -/

theorem resolve_get? (t : QueryTable) (v : Version) (ns : String) :
    (t.resolve v).get? ns = (t.get? ns).map (pick v) :=
  Dict.get?_mapValues _ t ns

theorem of_resolve_eq_custom {t : QueryTable} {v : Version} {ns q : String} :
    Resolution.of (t.resolve v) ns = .custom q ↔
      ∃ l, t.get? ns = some l ∧ pick v l = q ∧ q ≠ "" := by
  unfold Resolution.of
  rw [resolve_get?]
  cases t.get? ns with
  | none => simp
  | some l => by_cases empty : pick v l = "" <;> simp [empty]; grind

theorem of_resolve_eq_disabled {t : QueryTable} {v : Version} {ns : String} :
    Resolution.of (t.resolve v) ns = .disabled ↔ ∃ l, t.get? ns = some l ∧ pick v l = "" := by
  unfold Resolution.of
  rw [resolve_get?]
  cases t.get? ns with
  | none => simp
  | some l => by_cases empty : pick v l = "" <;> simp [empty]

theorem of_resolve_eq_notConfigured {t : QueryTable} {v : Version} {ns : String} :
    Resolution.of (t.resolve v) ns = .notConfigured ↔ t.get? ns = none := by
  unfold Resolution.of
  rw [resolve_get?]
  cases t.get? ns with
  | none => simp
  | some l => by_cases empty : pick v l = "" <;> simp [empty]

theorem resolve_reordered {t t' : QueryTable} (h : t.validate = .ok ())
    (rel : ∀ ns, Option.Rel List.Perm (t.get? ns) (t'.get? ns)) (v : Version) :
    t'.resolve v = t.resolve v := by
  refine Dict.ext_get? fun ns => ?_
  rw [resolve_get?, resolve_get?]
  have related := rel ns
  generalize t'.get? ns = other at related ⊢
  cases hl : t.get? ns with
  | none =>
    rw [hl] at related
    cases related
    rfl
  | some l =>
    rw [hl] at related
    cases related with
    | some perm => exact congrArg some (pick_perm (exclusive_of_validate h hl v) perm)

theorem unambiguous_of_validate {t : QueryTable} (h : t.validate = .ok ()) : t.Unambiguous where
  exclusive v ns l hl := exclusive_of_validate h hl v
  reordered v t' rel := resolve_reordered h rel v
  custom v ns q := by
    rw [of_resolve_eq_custom]
    constructor
    · rintro ⟨l, hl, picked, nonempty⟩
      obtain ⟨c, mem, holds, sql⟩ := (pick_eq_iff (exclusive_of_validate h hl v) nonempty).mp picked
      exact ⟨l, hl, c, mem, holds, sql, nonempty⟩
    · rintro ⟨l, hl, c, mem, holds, sql, nonempty⟩
      exact ⟨l, hl, sql ▸ pick_of_mem (exclusive_of_validate h hl v) mem holds, nonempty⟩
  disabled v ns := by
    rw [of_resolve_eq_disabled]
    refine exists_congr fun l => and_congr_right fun hl => ?_
    exact pick_eq_empty (exclusive_of_validate h hl v)
  notConfigured _ _ := of_resolve_eq_notConfigured

theorem validate_of_build {includeStandard : Bool} {user : Option Declarations} {stem : String}
    {c : Catalog} (h : Catalog.build includeStandard user stem = .ok c) :
    c.declarations.queries.validate = .ok () := by
  unfold Catalog.build at h
  obtain ⟨⟨⟩, valid, built⟩ := bind_eq_ok.mp h
  cases built
  exact valid

/-- The check accepts only tables without ambiguity, and catalogs have no others. A table that it
does not accept is reported with its first clash. -/
theorem validate_sound_and_first_clash :
    (∀ t : QueryTable, t.validate = .ok () → t.Unambiguous) ∧
    (∀ includeStandard user stem c, Catalog.build includeStandard user stem = .ok c →
      c.declarations.queries.validate = .ok () ∧ c.declarations.queries.Unambiguous) ∧
    (∀ (t : QueryTable) e, t.validate = .error e ↔ ∃ p c d, t.FirstClash p c d ∧
      e = .overlappingQueries p.namespaceName (VersionRange.text c.versions)
        (VersionRange.text d.versions)) :=
  ⟨fun _ => unambiguous_of_validate,
    fun _ _ _ _ h => ⟨validate_of_build h, unambiguous_of_validate (validate_of_build h)⟩,
    fun _ _ => validate_eq_error⟩

/-- A table with one query below version 14 and another from there on. -/
def divided : QueryTable :=
  .ofList [("pg_x", [⟨[⟨.below, ⟨14, 0, 0⟩⟩], "select a"⟩, ⟨[⟨.atLeast, ⟨14, 0, 0⟩⟩], "select b"⟩])]

theorem resolve_divided :
    divided.validate = .ok () ∧
      Resolution.of (divided.resolve ⟨14, 0, 0⟩) "pg_x" = .custom "select b" := by
  have unambiguous := validate_sound_and_first_clash.1 divided rfl
  refine ⟨rfl, (unambiguous.custom ⟨14, 0, 0⟩ "pg_x" "select b").mpr ?_⟩
  refine ⟨_, rfl, ⟨[⟨.atLeast, ⟨14, 0, 0⟩⟩], "select b"⟩, ?_, rfl, rfl, by decide⟩
  simp

end PgMetrics.QueryTable
