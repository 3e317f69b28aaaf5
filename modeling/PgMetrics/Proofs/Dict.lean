import Mathlib.Data.List.Dedup
import Mathlib.Data.List.Induction
import PgMetrics.Dict

/-!
# Facts about dictionaries

A dictionary is determined by its look-ups, and where only equal keys compare as equal a look-up
finds exactly the entries. A dictionary of a list has its keys, each with the value that comes last.

## Main results

* `Dict.get?_eq_some_iff` — look-ups and entries.
* `Dict.ext_get?` — dictionaries with the same look-ups are equal.
* `Dict.get?_merge` — look-ups in a dictionary with another on top.
* `Dict.mem_toList_ofList`, `Dict.get?_ofList_eq_some_iff`, `Dict.size_ofList` — the dictionary of
  a list.
* `Dict.ofList_eq_of_perm` — bindings of different keys may be made in any order.
-/

namespace PgMetrics.Dict

variable {α β γ : Type} [Ord α]

theorem mem_of_lookupEntry [Std.LawfulEqOrd α] {k : α} {v : β} {l : List (α × β)}
    (h : lookupEntry k l = some v) : (k, v) ∈ l := by
  induction l with
  | nil => simp [lookupEntry] at h
  | cons d rest ih =>
    by_cases hk : compare k d.1 = .eq
    · obtain rfl := Std.LawfulEqCmp.eq_of_compare hk
      simp only [lookupEntry, hk, ↓reduceIte, Option.some.injEq] at h
      simp [← h]
    · simp only [lookupEntry, hk, ↓reduceIte] at h
      exact List.mem_cons_of_mem _ (ih h)

@[simp]
theorem keys_mapValues (f : α → β → γ) (d : Dict α β) : (d.mapValues f).keys = d.keys := by
  simp [mapValues, keys]

variable [Std.TransOrd α]

theorem lookupEntry_of_mem {k : α} {v : β} {l : List (α × β)}
    (ascending : l.Pairwise fun a b => compare a.1 b.1 = .lt) (h : (k, v) ∈ l) :
    lookupEntry k l = some v := by
  induction l with
  | nil => cases h
  | cons d rest ih =>
    obtain ⟨first, rest'⟩ := List.pairwise_cons.mp ascending
    rcases List.mem_cons.mp h with rfl | h
    · simp [lookupEntry]
    · have : compare k d.1 ≠ .eq := by
        rw [Std.OrientedCmp.gt_of_lt (first _ h)]
        decide
      simp [lookupEntry, this, ih rest' h]

theorem get?_eq_some_iff [Std.LawfulEqOrd α] {d : Dict α β} {k : α} {v : β} :
    d.get? k = some v ↔ (k, v) ∈ d.toList :=
  ⟨mem_of_lookupEntry, lookupEntry_of_mem d.ascending⟩

theorem pairwise_ne (d : Dict α β) : d.toList.Pairwise fun a b => a.1 ≠ b.1 := by
  refine d.ascending.imp fun {a b} h same => ?_
  rw [same] at h
  simp at h

theorem get?_eq_none_iff [Std.LawfulEqOrd α] {d : Dict α β} {k : α} :
    d.get? k = none ↔ ∀ v, (k, v) ∉ d.toList := by
  simp only [← get?_eq_some_iff]
  cases d.get? k <;> simp

theorem nodup_keys (d : Dict α β) : d.keys.Nodup := by
  unfold keys
  rw [List.Nodup, List.pairwise_map]
  exact d.pairwise_ne

theorem contains_iff_mem_keys [Std.LawfulEqOrd α] {d : Dict α β} {k : α} :
    d.contains k = true ↔ k ∈ d.keys := by
  unfold contains keys
  rw [Option.isSome_iff_exists, List.mem_map]
  constructor
  · rintro ⟨v, found⟩
    exact ⟨(k, v), get?_eq_some_iff.mp found, rfl⟩
  · rintro ⟨⟨k, v⟩, mem, rfl⟩
    exact ⟨v, get?_eq_some_iff.mpr mem⟩

theorem notMem_keys_iff [Std.LawfulEqOrd α] {d : Dict α β} {k : α} :
    k ∉ d.keys ↔ d.get? k = none := by
  rw [← contains_iff_mem_keys, contains, Option.not_isSome_iff_eq_none]

theorem nodup_of_ascending {l : List (α × β)}
    (h : l.Pairwise fun a b => compare a.1 b.1 = .lt) : l.Nodup := by
  refine h.imp fun hab => ?_
  rintro rfl
  simp at hab

/-- Two lists of entries in ascending order with the same members are the same list. -/
theorem eq_of_mem_iff {l m : List (α × β)}
    (hl : l.Pairwise fun a b => compare a.1 b.1 = .lt)
    (hm : m.Pairwise fun a b => compare a.1 b.1 = .lt) (h : ∀ e, e ∈ l ↔ e ∈ m) : l = m := by
  refine List.Perm.eq_of_pairwise (fun a b _ _ hab hba => ?_) hl hm
    ((List.perm_ext_iff_of_nodup (nodup_of_ascending hl) (nodup_of_ascending hm)).mpr h)
  rw [Std.OrientedCmp.gt_of_lt hab] at hba
  cases hba

theorem ext_get? [Std.LawfulEqOrd α] {a b : Dict α β} (h : ∀ k, a.get? k = b.get? k) : a = b := by
  refine ext_entries (eq_of_mem_iff a.ascending b.ascending fun e => ?_)
  change (e.1, e.2) ∈ a.toList ↔ (e.1, e.2) ∈ b.toList
  rw [← get?_eq_some_iff, ← get?_eq_some_iff, h]

theorem nodup_toList (d : Dict α β) : d.toList.Nodup := nodup_of_ascending d.ascending

/-- A new key adds one entry. -/
theorem toList_insert_perm [Std.LawfulEqOrd α] {d : Dict α β} {k : α} (free : d.get? k = none)
    (v : β) : (d.insert k v).toList.Perm ((k, v) :: d.toList) := by
  have fresh : (k, v) ∉ d.toList := get?_eq_none_iff.mp free v
  rw [List.perm_ext_iff_of_nodup (nodup_toList _) (List.nodup_cons.mpr ⟨fresh, nodup_toList d⟩)]
  rintro ⟨k', v'⟩
  rw [List.mem_cons, ← get?_eq_some_iff, ← get?_eq_some_iff]
  simp only [get?_insert, Std.LawfulEqCmp.compare_eq_iff_eq]
  by_cases same : k' = k
  · subst same
    simp [free, eq_comm]
  · simp [same]

theorem get?_mapValues [Std.LawfulEqOrd α] (f : α → β → γ) (d : Dict α β) (k : α) :
    (d.mapValues f).get? k = (d.get? k).map (f k) := by
  refine Option.ext fun v => ?_
  rw [get?_eq_some_iff, Option.map_eq_some_iff]
  simp only [get?_eq_some_iff, toList, mapValues, List.mem_map, Prod.mk.injEq]
  constructor
  · rintro ⟨e, he, rfl, rfl⟩
    exact ⟨e.2, he, rfl⟩
  · rintro ⟨w, hw, rfl⟩
    exact ⟨(k, w), hw, rfl, rfl⟩

/-- Dictionaries that bind the same keys list them alike. -/
theorem keys_eq_of_isSome [Std.LawfulEqOrd α] {a : Dict α β} {b : Dict α γ}
    (h : ∀ k, (a.get? k).isSome = (b.get? k).isSome) : a.keys = b.keys := by
  have same : a.mapValues (fun _ _ => ()) = b.mapValues fun _ _ => () := by
    refine ext_get? fun k => ?_
    rw [get?_mapValues, get?_mapValues]
    have both := h k
    cases ha : a.get? k <;> cases hb : b.get? k <;> simp_all
  rw [← a.keys_mapValues fun _ _ => (), same, keys_mapValues]

theorem get?_erase [Std.LawfulEqOrd α] (d : Dict α β) (k k' : α) :
    (d.erase k).get? k' = if compare k k' = .eq then none else d.get? k' := by
  refine Option.ext fun v => ?_
  rw [get?_eq_some_iff]
  unfold erase toList
  rw [List.mem_filter]
  change (k', v) ∈ d.toList ∧ _ ↔ _
  rw [← get?_eq_some_iff]
  by_cases same : compare k k' = .eq <;> simp [same]

/-- Bindings that are added in ascending order stand before those that were there. -/
theorem get?_foldl_insert [Std.LawfulEqOrd α] {l : List (α × β)}
    (ascending : l.Pairwise fun a b => compare a.1 b.1 = .lt) (d : Dict α β) (k : α) :
    (l.foldl (fun d e => d.insert e.1 e.2) d).get? k = (lookupEntry k l).or (d.get? k) := by
  induction l generalizing d with
  | nil => rfl
  | cons e rest ih =>
    obtain ⟨first, rest'⟩ := List.pairwise_cons.mp ascending
    rw [List.foldl_cons, ih rest', get?_insert]
    by_cases same : compare k e.1 = .eq
    · have absent : lookupEntry k rest = none := by
        by_contra found
        obtain ⟨v, found⟩ := Option.ne_none_iff_exists'.mp found
        have later := first _ (mem_of_lookupEntry found)
        rw [Std.LawfulEqCmp.eq_of_compare same] at later
        simp at later
      simp [lookupEntry, same, absent]
    · simp [lookupEntry, same]

@[simp]
theorem get?_merge [Std.LawfulEqOrd α] (base top : Dict α β) (k : α) :
    (base.merge top).get? k = (top.get? k).or (base.get? k) :=
  get?_foldl_insert top.ascending base k

/-! ## The dictionary of a list -/

theorem ofList_concat (l : List (α × β)) (e : α × β) :
    ofList (l ++ [e]) = (ofList l).insert e.1 e.2 :=
  List.foldl_concat ..

/-- A binding that is made takes the place of one with an equal key. -/
theorem mem_insertEntry_iff {k : α} {v : β} {l : List (α × β)} {e : α × β}
    (ascending : l.Pairwise fun a b => compare a.1 b.1 = .lt) :
    e ∈ insertEntry k v l ↔ e = (k, v) ∨ e ∈ l ∧ compare k e.1 ≠ .eq := by
  induction l with
  | nil => simp [insertEntry]
  | cons d rest ih =>
    obtain ⟨first, others⟩ := List.pairwise_cons.mp ascending
    have ih := ih others
    unfold insertEntry
    split
    case h_1 before =>
      have later : ∀ f ∈ rest, compare k f.1 = .lt := fun f mem =>
        Std.TransCmp.lt_trans before (first f mem)
      grind
    case h_2 same =>
      have later : ∀ f ∈ rest, compare k f.1 = .lt := fun f mem =>
        Std.TransCmp.lt_of_eq_of_lt same (first f mem)
      grind
    case h_3 after => grind

/-- An entry is found by every key that is equal to its own. -/
theorem get?_eq_some_iff_exists {d : Dict α β} {k : α} {v : β} :
    d.get? k = some v ↔ ∃ k', (k', v) ∈ d.toList ∧ compare k k' = .eq := by
  obtain ⟨l, ascending⟩ := d
  change lookupEntry k l = some v ↔ ∃ k', (k', v) ∈ l ∧ compare k k' = .eq
  induction l with
  | nil => simp [lookupEntry]
  | cons d rest ih =>
    obtain ⟨first, others⟩ := List.pairwise_cons.mp ascending
    have ih := ih others
    unfold lookupEntry
    split
    case isTrue same =>
      have later : ∀ f ∈ rest, compare k f.1 = .lt := fun f mem =>
        Std.TransCmp.lt_of_eq_of_lt same (first f mem)
      grind
    case isFalse other => grind

/-- Of the bindings of equal keys the last one stays. -/
theorem mem_toList_ofList {l : List (α × β)} {e : α × β} :
    e ∈ (ofList l).toList ↔
      ∃ before after, l = before ++ e :: after ∧ ∀ f ∈ after, compare f.1 e.1 ≠ .eq := by
  induction l using List.reverseRecOn with
  | nil => simp [ofList]
  | append_singleton rest last ih =>
    have inserted : e ∈ (ofList (rest ++ [last])).toList ↔
        e = last ∨ e ∈ (ofList rest).toList ∧ compare last.1 e.1 ≠ .eq := by
      rw [ofList_concat]
      exact mem_insertEntry_iff (ofList rest).ascending
    rw [inserted, ih]
    constructor
    · rintro (rfl | ⟨⟨before, after, rfl, others⟩, own⟩)
      · exact ⟨rest, [], rfl, by simp⟩
      · exact ⟨before, after ++ [last], by simp, by grind⟩
    · rintro ⟨before, after, split, others⟩
      -- the pair stands last, or the last one has another key
      rcases List.eq_nil_or_concat' after with rfl | ⟨after, f, rfl⟩
      · exact .inl (List.append_singleton_inj.mp split).2.symm
      · rw [← List.cons_append, ← List.append_assoc] at split
        obtain ⟨rfl, rfl⟩ := List.append_singleton_inj.mp split
        obtain ⟨others, own⟩ := List.forall_mem_append.mp others
        exact .inr ⟨⟨before, after, rfl, others⟩, by simpa using own⟩

theorem mem_toList_ofList_of_distinct {l : List (α × β)}
    (distinct : l.Pairwise fun a b => compare a.1 b.1 ≠ .eq) {e : α × β} :
    e ∈ (ofList l).toList ↔ e ∈ l := by
  rw [mem_toList_ofList]
  constructor
  · rintro ⟨before, after, rfl, -⟩
    simp
  · intro mem
    obtain ⟨before, after, rfl⟩ := List.append_of_mem mem
    refine ⟨before, after, rfl, fun f later => ?_⟩
    have apart := (List.pairwise_cons.mp (List.pairwise_append.mp distinct).2.1).1 f later
    exact fun same => apart (Std.OrientedCmp.eq_symm same)

/-- The order in which different keys are bound does not count. -/
theorem ofList_eq_of_perm {l m : List (α × β)} (perm : l.Perm m)
    (distinct : l.Pairwise fun a b => compare a.1 b.1 ≠ .eq) : ofList l = ofList m := by
  have distinct' : m.Pairwise fun a b => compare a.1 b.1 ≠ .eq :=
    perm.pairwise distinct fun {a b} ne same => ne (Std.OrientedCmp.eq_symm same)
  refine ext_entries (eq_of_mem_iff (ofList l).ascending (ofList m).ascending fun e => ?_)
  exact (mem_toList_ofList_of_distinct distinct).trans
    (perm.mem_iff.trans (mem_toList_ofList_of_distinct distinct').symm)

/-- A key finds what the last equal key of the list is bound to. -/
theorem get?_ofList_eq_some_iff_getElem? {l : List (α × β)} {k : α} {v : β} :
    (ofList l).get? k = some v ↔ ∃ (i : Nat) (k' : α), l[i]? = some (k', v) ∧ compare k k' = .eq ∧
      ∀ (j : Nat) e, i < j → l[j]? = some e → compare k e.1 ≠ .eq := by
  simp only [get?_eq_some_iff_exists, mem_toList_ofList]
  constructor
  · rintro ⟨k', ⟨before, after, rfl, others⟩, same⟩
    refine ⟨before.length, k', by simp, same, fun j e later found equal => ?_⟩
    have mem : e ∈ after := by
      rw [List.getElem?_append_right (by omega), List.getElem?_cons] at found
      rw [if_neg (by omega)] at found
      exact List.mem_of_getElem? found
    exact others e mem (Std.TransCmp.eq_trans (Std.OrientedCmp.eq_symm equal) same)
  · rintro ⟨i, k', found, same, others⟩
    obtain ⟨bound, found⟩ := List.getElem?_eq_some_iff.mp found
    refine ⟨k', ⟨l.take i, l.drop (i + 1), ?_, fun e mem equal => ?_⟩, same⟩
    · rw [← found, ← List.drop_eq_getElem_cons bound, List.take_append_drop]
    · obtain ⟨j, later⟩ := List.mem_iff_getElem?.mp mem
      rw [List.getElem?_drop] at later
      exact others _ e (by omega) later (Std.TransCmp.eq_trans same (Std.OrientedCmp.eq_symm equal))

theorem toList_insert_ne_nil (d : Dict α β) (k : α) (v : β) : (d.insert k v).toList ≠ [] := by
  intro none
  have found : (d.insert k v).get? k = some v := by simp
  unfold get? at found
  rw [show (d.insert k v).entries = [] from none] at found
  cases found

section OfList

variable [Std.LawfulEqOrd α]

@[simp]
theorem mem_keys_insert {d : Dict α β} {k k' : α} {v : β} :
    k' ∈ (d.insert k v).keys ↔ k' = k ∨ k' ∈ d.keys := by
  rw [← contains_iff_mem_keys, ← contains_iff_mem_keys, contains, contains, get?_insert]
  by_cases same : k' = k <;> simp [same]

@[simp]
theorem mem_keys_ofList {l : List (α × β)} {k : α} : k ∈ (ofList l).keys ↔ k ∈ l.map (·.1) := by
  induction l using List.reverseRecOn with
  | nil => simp [ofList, keys, empty]
  | append_singleton rest e ih =>
    rw [ofList_concat, mem_keys_insert, ih]
    simp [or_comm]

/-- A key is bound to the value that comes last with it. -/
theorem get?_ofList_eq_some_iff {l : List (α × β)} {k : α} {v : β} :
    (ofList l).get? k = some v ↔
      ∃ before after, l = before ++ (k, v) :: after ∧ ∀ e ∈ after, e.1 ≠ k := by
  rw [get?_eq_some_iff, mem_toList_ofList]
  simp only [ne_eq, Std.LawfulEqCmp.compare_eq_iff_eq]

/-- A dictionary is the dictionary of its entries. -/
@[simp]
theorem ofList_toList (d : Dict α β) : ofList d.toList = d := by
  refine ext_get? fun k => (get?_foldl_insert d.ascending empty k).trans ?_
  rw [get?_empty, Option.or_none]
  rfl

/-- There is an entry for every key of the list. -/
theorem size_ofList [DecidableEq α] (l : List (α × β)) :
    (ofList l).size = (l.map (·.1)).dedup.length := by
  have perm : (ofList l).keys.Perm (l.map (·.1)).dedup := by
    rw [List.perm_ext_iff_of_nodup (nodup_keys _) (List.nodup_dedup _)]
    simp
  rw [← perm.length_eq]
  simp [size, keys]

end OfList

end PgMetrics.Dict
