/-!
# Sorted dictionaries

`Dict α β` is a finite map kept as a list of entries in strictly ascending key order. The order is
part of the type, so two dictionaries with the same entries are equal, and reading the entries in
order is reading the map.

## Main definitions

* `Dict.insert`: adds a binding, which takes the place of one with an equal key.
* `Dict.get?`, `Dict.erase`, `Dict.ofList`, `Dict.merge`.
-/

namespace PgMetrics

/-- A finite map whose entries stand in strictly ascending key order. -/
structure Dict (α β : Type) [Ord α] where
  entries : List (α × β)
  ascending : entries.Pairwise fun a b => compare a.1 b.1 = .lt

namespace Dict

variable {α β γ : Type} [Ord α]

def empty : Dict α β := ⟨[], .nil⟩

instance : EmptyCollection (Dict α β) := ⟨empty⟩

instance : Inhabited (Dict α β) := ⟨empty⟩

/-! ## Operations on the list of entries -/

/-- Puts a binding where its key belongs, in place of one with an equal key. -/
def insertEntry (k : α) (v : β) : List (α × β) → List (α × β)
  | [] => [(k, v)]
  | e :: rest =>
    match compare k e.1 with
    | .lt => (k, v) :: e :: rest
    | .eq => (k, v) :: rest
    | .gt => e :: insertEntry k v rest

/-- The value bound to `k`, scanning from the front. -/
def lookupEntry (k : α) : List (α × β) → Option β
  | [] => none
  | e :: rest => if compare k e.1 = .eq then some e.2 else lookupEntry k rest

theorem mem_insertEntry {k : α} {v : β} {l : List (α × β)} {e : α × β}
    (h : e ∈ insertEntry k v l) : e = (k, v) ∨ e ∈ l := by
  induction l with
  | nil => simp_all [insertEntry]
  | cons d rest ih =>
    unfold insertEntry at h
    split at h
    · exact List.mem_cons.1 h
    · exact (List.mem_cons.1 h).imp id (List.mem_cons_of_mem _)
    · rcases List.mem_cons.1 h with h | h
      · exact .inr (h ▸ List.mem_cons_self ..)
      · exact (ih h).imp id (List.mem_cons_of_mem _)

theorem pairwise_insertEntry [Std.TransOrd α] (k : α) (v : β) {l : List (α × β)}
    (h : l.Pairwise fun a b => compare a.1 b.1 = .lt) :
    (insertEntry k v l).Pairwise fun a b => compare a.1 b.1 = .lt := by
  induction l with
  | nil => simp [insertEntry]
  | cons d rest ih =>
    have hd := List.pairwise_cons.1 h
    unfold insertEntry
    split
    · rename_i hlt
      refine List.pairwise_cons.2 ⟨fun e he => ?_, h⟩
      rcases List.mem_cons.1 he with he | he
      · subst he; exact hlt
      · exact Std.TransCmp.lt_trans hlt (hd.1 e he)
    · rename_i heq
      exact List.pairwise_cons.2
        ⟨fun e he => Std.TransCmp.lt_of_eq_of_lt heq (hd.1 e he), hd.2⟩
    · rename_i hgt
      have hlt : compare d.1 k = .lt := Std.OrientedCmp.lt_of_gt hgt
      refine List.pairwise_cons.2 ⟨fun e he => ?_, ih hd.2⟩
      rcases mem_insertEntry he with he | he
      · subst he; exact hlt
      · exact hd.1 e he

/-! ## Operations -/

/-- Binds `k` to `v`; a binding of an equal key is given up. -/
def insert [Std.TransOrd α] (d : Dict α β) (k : α) (v : β) : Dict α β :=
  ⟨insertEntry k v d.entries, pairwise_insertEntry k v d.ascending⟩

def get? (d : Dict α β) (k : α) : Option β :=
  lookupEntry k d.entries

def contains (d : Dict α β) (k : α) : Bool :=
  (d.get? k).isSome

def erase (d : Dict α β) (k : α) : Dict α β :=
  ⟨d.entries.filter fun e => compare k e.1 != .eq, d.ascending.filter _⟩

/-- The bindings in ascending key order. -/
def toList (d : Dict α β) : List (α × β) := d.entries

/-- A dictionary stands for its entries, in the order of their keys. -/
instance : Coe (Dict α β) (List (α × β)) := ⟨toList⟩

def keys (d : Dict α β) : List α := d.entries.map (·.1)

/-- The values in the order of their keys. -/
def values (d : Dict α β) : List β := d.entries.map (·.2)

def size (d : Dict α β) : Nat := d.entries.length

def isEmpty (d : Dict α β) : Bool := d.entries.isEmpty

/-- Binds the pairs of a list in order; the last pair of a key gives its value. -/
def ofList [Std.TransOrd α] (l : List (α × β)) : Dict α β :=
  l.foldl (fun d e => d.insert e.1 e.2) empty

/-- The bindings of `top` put on top of those of `base`. -/
def merge [Std.TransOrd α] (base top : Dict α β) : Dict α β :=
  top.entries.foldl (fun d e => d.insert e.1 e.2) base

/-- Changes every value; the keys stay. -/
def mapValues (f : α → β → γ) (d : Dict α β) : Dict α γ :=
  ⟨d.entries.map fun e => (e.1, f e.1 e.2), List.pairwise_map.2 d.ascending⟩

/-! ## The view -/

@[ext]
theorem ext_entries {a b : Dict α β} (h : a.entries = b.entries) : a = b := by
  cases a; cases b; cases h; rfl

@[simp]
theorem get?_empty (k : α) : (empty : Dict α β).get? k = none := rfl

@[simp]
theorem toList_empty : (empty : Dict α β).toList = [] := rfl

theorem lookupEntry_insertEntry [Std.TransOrd α] (k k' : α) (v : β) (l : List (α × β)) :
    lookupEntry k' (insertEntry k v l) =
      if compare k' k = .eq then some v else lookupEntry k' l := by
  induction l with
  | nil => simp [insertEntry, lookupEntry]
  | cons d rest ih =>
    unfold insertEntry
    split
    · simp [lookupEntry]
    · rename_i heq
      have : compare k' d.1 = compare k' k := (Std.TransCmp.congr_right heq).symm
      simp only [lookupEntry, this]
      split <;> rfl
    · rename_i hgt
      by_cases hk : compare k' d.1 = .eq
      · have : compare k' k ≠ .eq := fun h => by
          have h1 : compare k k' = .eq := Std.OrientedCmp.eq_symm h
          have h2 : compare k d.1 = .eq := Std.TransCmp.eq_trans h1 hk
          rw [hgt] at h2; cases h2
        simp [lookupEntry, hk, this]
      · simp [lookupEntry, hk, ih]

@[simp]
theorem get?_insert [Std.TransOrd α] (d : Dict α β) (k k' : α) (v : β) :
    (d.insert k v).get? k' = if compare k' k = .eq then some v else d.get? k' :=
  lookupEntry_insertEntry k k' v d.entries

end Dict

end PgMetrics
