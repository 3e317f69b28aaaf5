import Mathlib.Data.List.Nodup
import PgMetrics.Config.Tree

/-!
# Trees of settings put over each other

Where no table has two entries of one key, a tree that is put over another one is seen key by key:
an entry of the upper table is put over the entry of its key in the lower one. A lower tree that
says only what a reader takes for granted anyway makes no difference to what the reader finds.

## Main definitions

* `Tree.WellKeyed` — the keys of every table are distinct.
* `Tree.Silent` — a tree says nothing new to a reader.

## Main results

* `Tree.lookup_mergeEntries` — the entries of a table put over another one.
* `Tree.WellKeyed.merge` — merging keeps the keys distinct.
* `Tree.fieldOr_mergeEntries` — a field over a silent entry.
-/

namespace PgMetrics.Tree

/-- The keys of every table are distinct. The trees in a list do not count, since a list is taken as
a whole. -/
inductive WellKeyed : Tree → Prop
  | text (s : String) : WellKeyed (.text s)
  | flag (b : Bool) : WellKeyed (.flag b)
  | number (n : Int) : WellKeyed (.number n)
  | real (w : String) : WellKeyed (.real w)
  | list (items : List Tree) : WellKeyed (.list items)
  | table {entries : List (String × Tree)} (distinct : (entries.map (·.1)).Nodup)
      (each : ∀ e ∈ entries, WellKeyed e.2) : WellKeyed (.table entries)

variable {α : Type} {k : String} {f : Option Tree → Tree} {l base top : List (String × Tree)}

theorem WellKeyed.distinct (h : WellKeyed (.table l)) : (l.map (·.1)).Nodup := by
  cases h with
  | table distinct _ => exact distinct

theorem WellKeyed.each (h : WellKeyed (.table l)) : ∀ e ∈ l, WellKeyed e.2 := by
  cases h with
  | table _ each => exact each

theorem WellKeyed.empty : WellKeyed (.table []) := .table .nil nofun

theorem WellKeyed.tail {e : String × Tree} (h : WellKeyed (.table (e :: l))) :
    WellKeyed (.table l) :=
  .table (List.nodup_cons.mp h.distinct).2 fun d hd => h.each d (List.mem_cons_of_mem e hd)

theorem WellKeyed.of_lookup (h : WellKeyed (.table l)) {t : Tree} (found : l.lookup k = some t) :
    WellKeyed t := by
  obtain ⟨before, after, rfl, -⟩ := List.lookup_eq_some_iff.mp found
  exact h.each (k, t) (by simp)

/-- Where keys are distinct, an entry is found by its key. -/
theorem lookup_eq_some_iff_mem (distinct : (l.map (·.1)).Nodup) {t : Tree} :
    l.lookup k = some t ↔ (k, t) ∈ l := by
  constructor
  · intro found
    obtain ⟨before, after, rfl, -⟩ := List.lookup_eq_some_iff.mp found
    simp
  · intro mem
    obtain ⟨before, after, rfl⟩ := List.append_of_mem mem
    refine List.lookup_eq_some_iff.mpr ⟨before, after, rfl, fun e he => bne_iff_ne.mpr ?_⟩
    rw [List.map_append, List.nodup_append] at distinct
    exact (distinct.2.2 e.1 (List.mem_map_of_mem he) k (by simp)).symm

/-! ## Changing one entry -/

theorem lookup_alter (k' : String) :
    (alter k f l).lookup k' = if k' = k then some (f (l.lookup k)) else l.lookup k' := by
  induction l with
  | nil => grind [alter]
  | cons e rest ih => grind [alter]

theorem keys_alter :
    (alter k f l).map (·.1) = if k ∈ l.map (·.1) then l.map (·.1) else l.map (·.1) ++ [k] := by
  induction l with
  | nil => simp [alter]
  | cons e rest ih => grind [alter]

theorem mem_alter {e : String × Tree} (h : e ∈ alter k f l) : e = (k, f (l.lookup k)) ∨ e ∈ l := by
  induction l with
  | nil => grind [alter]
  | cons d rest ih => grind [alter]

theorem WellKeyed.alter (h : WellKeyed (.table l)) (hf : WellKeyed (f (l.lookup k))) :
    WellKeyed (.table (alter k f l)) := by
  refine .table ?_ fun e he => ?_
  · rw [keys_alter]
    split
    · exact h.distinct
    · rename_i absent
      exact List.nodup_append.mpr ⟨h.distinct, List.nodup_singleton k, by grind⟩
  · rcases mem_alter he with rfl | old
    · exact hf
    · exact h.each e old

/-! ## Merging -/

/-- A tree put over what is there, if anything is. -/
def putOver (old : Option Tree) (t : Tree) : Tree := old.elim t fun b => b.merge t

theorem mergeEntries_cons (k : String) (t : Tree) :
    mergeEntries base ((k, t) :: top) = mergeEntries (alter k (putOver · t) base) top := by
  rw [mergeEntries]
  congr
  funext old
  cases old <;> rfl

/-- Only a table takes what it had into a table that is put over it. -/
theorem merge_of_leaf {b : Tree} (leaf : ∀ entries, b ≠ .table entries) (t : Tree) :
    b.merge t = t := by
  cases t with
  | table top =>
    cases b with
    | table entries => exact absurd rfl (leaf entries)
    | _ => rfl
  | _ => rfl

theorem lookup_mergeEntries (distinct : (top.map (·.1)).Nodup) (k : String) :
    (mergeEntries base top).lookup k =
      (top.lookup k).elim (base.lookup k) fun t => some (putOver (base.lookup k) t) := by
  induction top generalizing base with
  | nil => rfl
  | cons e rest ih =>
    obtain ⟨k', t⟩ := e
    obtain ⟨fresh, distinct⟩ := List.nodup_cons.mp distinct
    rw [mergeEntries_cons, ih distinct, lookup_alter]
    by_cases same : k = k'
    · subst same
      have absent : rest.lookup k = none := by
        rw [List.lookup_eq_none_iff]
        intro e he
        rw [bne_iff_ne]
        rintro rfl
        exact fresh (List.mem_map.mpr ⟨e, he, rfl⟩)
      simp [absent]
    · simp [same, List.lookup_cons, beq_eq_false_iff_ne.mpr same]

/-- Entries with keys of their own come behind those that are there. -/
theorem mergeEntries_of_disjoint (distinct : ((base ++ top).map (·.1)).Nodup) :
    mergeEntries base top = base ++ top := by
  induction top generalizing base with
  | nil => simp [mergeEntries]
  | cons e rest ih =>
    obtain ⟨k, t⟩ := e
    have added : alter k (putOver · t) base = base ++ [(k, t)] := by
      have fresh : k ∉ base.map (·.1) := by
        intro mem
        rw [List.map_append, List.nodup_append] at distinct
        exact distinct.2.2 k mem k (by simp) rfl
      clear distinct
      induction base with
      | nil => rfl
      | cons d base ih => grind [alter]
    rw [mergeEntries_cons, added, ih (by simpa using distinct)]
    simp

/-- Over the empty table a table stays as it is. -/
theorem WellKeyed.merge_empty (h : WellKeyed (.table top)) :
    (Tree.table []).merge (.table top) = .table top := by
  have alone : mergeEntries [] top = [] ++ top := mergeEntries_of_disjoint h.distinct
  exact congrArg Tree.table alone

mutual

theorem WellKeyed.merge {b : Tree} (hb : WellKeyed b) :
    (t : Tree) → WellKeyed t → WellKeyed (b.merge t)
  | .table top, ht => by
    cases b with
    | table base => exact hb.mergeEntries top ht
    | _ => exact ht
  | .text _, ht => ht
  | .flag _, ht => ht
  | .number _, ht => ht
  | .real _, ht => ht
  | .list _, ht => ht

theorem WellKeyed.mergeEntries {base : List (String × Tree)} (hb : WellKeyed (.table base)) :
    (top : List (String × Tree)) → WellKeyed (.table top) →
      WellKeyed (.table (Tree.mergeEntries base top))
  | [], _ => hb
  | (k, t) :: rest, ht => by
    rw [mergeEntries_cons]
    have first : WellKeyed t := ht.each (k, t) List.mem_cons_self
    refine WellKeyed.mergeEntries (hb.alter ?_) rest ht.tail
    cases old : base.lookup k with
    | none => exact first
    | some b => exact (hb.of_lookup old).merge t first

end

/-! ## Trees that say nothing new -/

/-- A tree that says to a reader what it takes for granted, and nothing else: the reader finds in
it the value for the case that nothing is said, and finds the same in a tree with or without it
below. -/
structure Silent (read? : Tree → Option α) (absent : α) (b : Tree) : Prop where
  read : read? b = some absent
  merge : ∀ t, WellKeyed t → read? (b.merge t) = read? t

theorem Silent.of_leaf {read? : Tree → Option α} {absent : α} {b : Tree}
    (read : read? b = some absent) (leaf : ∀ entries, b ≠ .table entries) :
    Silent read? absent b :=
  ⟨read, fun t _ => by rw [merge_of_leaf leaf]⟩

theorem Silent.of_lookup {read? : Tree → Option α} {absent : α} {b : Tree}
    (found : base.lookup k = some b) (silent : Silent read? absent b) :
    ∀ b', base.lookup k = some b' → Silent read? absent b' :=
  fun _ found' => Option.some.inj (found.symm.trans found') ▸ silent

/-- A field is read as if the entry below it were missing. -/
theorem fieldOr_mergeEntries {read? : Tree → Option α} {absent : α} (h : WellKeyed (.table top))
    (silent : ∀ b, base.lookup k = some b → Silent read? absent b) :
    fieldOr (mergeEntries base top) k read? absent = fieldOr top k read? absent := by
  rw [fieldOr, fieldOr, lookup_mergeEntries h.distinct]
  cases upper : top.lookup k with
  | none =>
    cases lower : base.lookup k with
    | none => rfl
    | some b => exact (silent b lower).read
  | some t =>
    cases lower : base.lookup k with
    | none => rfl
    | some b => exact (silent b lower).merge t (h.of_lookup upper)

/-- A record whose reader sees its fields alike over the entries of a table. -/
theorem Silent.of_fields (names : List String) {make : List (String × Tree) → Option α} {absent : α}
    (read : make base = some absent)
    (merge : ∀ top, WellKeyed (.table top) → make (mergeEntries base top) = make top) :
    Silent (fun t => (t.fields? names).bind make) absent (.table base) := by
  refine ⟨read, fun t ht => ?_⟩
  cases t with
  | table top => exact merge top ht
  | _ => rfl

end PgMetrics.Tree
