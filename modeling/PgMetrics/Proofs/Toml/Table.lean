import Mathlib.Data.List.Basic
import PgMetrics.Toml.Table

/-!
# Filling the tables of TOML

A step of a path goes into the table under its key, which it makes if there is none, or into the
last table of a series. Two changes at the end of one path are one change there, and a change at the
end of a longer path is a change at the end of the shorter one.

## Main definitions

* `along?` — changes the table at the end of the path of a header.
* `put?` — puts an item under a key that is new.
* `fill?` — puts items into the table at the end of a path, one after another.

## Main results

* `along?_bind`, `along?_snoc` — two changes at the end of a path, and a longer path.
* `along?_mono` — a change that can be done in more cases.
* `fill?_of_grows` — a table that is filled item by item.
-/

namespace PgMetrics.Toml

/-! ## Steps -/

/-- Changes the table under a key, or the last one of a series; a missing one is made. -/
def enter? (f : Entries → Option Entries) : Option Item → Option Item
  | none => (f []).map (.table .implied)
  | some (.table standing u) => (f u).map (.table standing)
  | some (.series us) => (alterLast? f us).map .series
  | some (.value _) => none

/-- Changes the table at the end of a path. -/
def along? (path : List String) (f : Entries → Option Entries) : Entries → Option Entries :=
  path.foldr (fun k f => alter? k (enter? f)) f

theorem within?_eq_along? (f : Entries → Option Entries) (path : List String) (standing : Standing)
    (t : Entries) : within? false (fun _ t => f t) path standing t = along? path f t := by
  induction path generalizing standing t with
  | nil => rfl
  | cons k path ih =>
    rw [within?, along?, List.foldr_cons]
    congr 1
    funext old
    have each : within? false (fun _ t => f t) path .headed = along? path f := funext (ih .headed)
    cases old with
    | none => simp only [ih]; rfl
    | some i =>
      cases i with
      | value v => rfl
      | table standing u => simp only [ih]; rfl
      | series us => simp only [each]; rfl

theorem along?_snoc (path : List String) (k : String) (f : Entries → Option Entries) :
    along? (path ++ [k]) f = along? path (alter? k (enter? f)) := by
  simp [along?]

/-! ## One change after another -/

theorem alter?_bind (k : String) (f g : Option Item → Option Item) (t : Entries) :
    (alter? k f t).bind (alter? k g) =
      alter? k (fun old => (f old).bind fun i => g (some i)) t := by
  induction t with
  | nil => cases h : f none <;> simp [alter?, h]
  | cons e rest ih =>
    by_cases same : e.1 = k
    · cases h : f (some e.2) <;> simp [alter?, same, h]
    · simp only [alter?, same, ↓reduceIte, ← ih]
      cases alter? k f rest <;> simp [alter?, same]

theorem alterLast?_concat (f : Entries → Option Entries) (us : List Entries) (u : Entries) :
    alterLast? f (us ++ [u]) = (f u).map fun v => us ++ [v] := by
  induction us with
  | nil => cases h : f u <;> simp [alterLast?, h]
  | cons v us ih =>
    rw [List.cons_append, alterLast?, ih]
    · cases f u <;> rfl
    · simp

theorem alterLast?_bind (f g : Entries → Option Entries) (us : List Entries) :
    (alterLast? f us).bind (alterLast? g) = alterLast? (fun t => (f t).bind g) us := by
  rcases us.eq_nil_or_concat with rfl | ⟨us, u, rfl⟩
  · rfl
  · rw [List.concat_eq_append, alterLast?_concat, alterLast?_concat]
    cases f u <;> simp [alterLast?_concat]

theorem enter?_bind (f g : Entries → Option Entries) (old : Option Item) :
    ((enter? f old).bind fun i => enter? g (some i)) = enter? (fun t => (f t).bind g) old := by
  match old with
  | none => cases h : f [] <;> simp [enter?, h]
  | some (.value v) => rfl
  | some (.table standing u) => cases h : f u <;> simp [enter?, h]
  | some (.series us) =>
    simp only [enter?, ← alterLast?_bind]
    cases alterLast? f us <;> rfl

/-- A change at the end of a path after another one is one change there. -/
theorem along?_bind (path : List String) (f g : Entries → Option Entries) (t : Entries) :
    (along? path f t).bind (along? path g) = along? path (fun t => (f t).bind g) t := by
  induction path generalizing t with
  | nil => rfl
  | cons k path ih =>
    have step (f : Entries → Option Entries) :
      along? (k :: path) f = alter? k (enter? (along? path f)) := rfl
    simp only [step, alter?_bind, enter?_bind, ih]

/-! ## A change that can be done in more cases -/

theorem alter?_mono {k : String} {f g : Option Item → Option Item}
    (more : ∀ old i, f old = some i → g old = some i) {t t' : Entries}
    (h : alter? k f t = some t') : alter? k g t = some t' := by
  induction t generalizing t' with
  | nil =>
    cases done : f none with
    | none => simp [alter?, done] at h
    | some i => simp_all [alter?, more _ _ done]
  | cons e rest ih =>
    by_cases same : e.1 = k
    · cases done : f (some e.2) with
      | none => simp [alter?, same, done] at h
      | some i => simp_all [alter?, more _ _ done]
    · cases done : alter? k f rest with
      | none => simp [alter?, same, done] at h
      | some rest' => simp_all [alter?]

theorem enter?_mono {f g : Entries → Option Entries} (more : ∀ t t', f t = some t' → g t = some t')
    (old : Option Item) (i : Item) (h : enter? f old = some i) : enter? g old = some i := by
  match old with
  | none =>
    obtain ⟨u, done, rfl⟩ := Option.map_eq_some_iff.mp h
    rw [enter?, more _ _ done]
    rfl
  | some (.value v) => cases h
  | some (.table standing u) =>
    obtain ⟨u', done, rfl⟩ := Option.map_eq_some_iff.mp h
    rw [enter?, more _ _ done]
    rfl
  | some (.series us) =>
    obtain ⟨us', done, rfl⟩ := Option.map_eq_some_iff.mp h
    rcases us.eq_nil_or_concat with rfl | ⟨us, u, rfl⟩
    · cases done
    · rw [List.concat_eq_append, alterLast?_concat] at done
      obtain ⟨v, last, rfl⟩ := Option.map_eq_some_iff.mp done
      rw [enter?, List.concat_eq_append, alterLast?_concat, more _ _ last]
      rfl

theorem along?_mono {path : List String} {f g : Entries → Option Entries}
    (more : ∀ t t', f t = some t' → g t = some t') {t t' : Entries}
    (h : along? path f t = some t') : along? path g t = some t' := by
  induction path generalizing t t' with
  | nil => exact more _ _ h
  | cons k path ih => exact alter?_mono (enter?_mono fun _ _ => ih) h

/-! ## Items put one after another -/

/-- The item under a key that is new. -/
def fresh? (i : Item) : Option Item → Option Item
  | none => some i
  | some _ => none

/-- A further table of a series. -/
def next? (u : Entries) : Option Item → Option Item
  | none => some (.series [u])
  | some (.series us) => some (.series (us ++ [u]))
  | some _ => none

/-- Puts an item under a key that is new. -/
def put? (k : String) (i : Item) : Entries → Option Entries := alter? k (fresh? i)

/-- Puts items into the table at the end of a path. -/
def fill? (path : List String) (items : Entries) (root : Entries) : Option Entries :=
  items.foldlM (fun root e => along? path (put? e.1 e.2) root) root

theorem put?_of_notMem {k : String} {t : Entries} (new : k ∉ t.map (·.1)) (i : Item) :
    put? k i t = some (t ++ [(k, i)]) := by
  unfold put?
  induction t with
  | nil => rfl
  | cons e t ih =>
    simp only [List.map_cons, List.mem_cons, not_or] at new
    rw [alter?, if_neg (Ne.symm new.1), ih new.2]
    rfl

@[simp]
theorem fill?_nil (path : List String) (root : Entries) : fill? path [] root = some root := rfl

theorem fill?_cons (path : List String) (e : String × Item) (items : Entries) :
    fill? path (e :: items) =
      fun root => (along? path (put? e.1 e.2) root).bind (fill? path items) := rfl

theorem fill?_append (path : List String) (a b root : Entries) :
    fill? path (a ++ b) root = (fill? path a root).bind (fill? path b) := by
  rw [fill?, List.foldlM_append]
  rfl

theorem notMem_of_nodup {t items : Entries} {e : String × Item}
    (distinct : ((t ++ e :: items).map (·.1)).Nodup) : e.1 ∉ t.map (·.1) := by
  intro mem
  rw [List.map_append, List.nodup_append] at distinct
  exact distinct.2.2 _ mem e.1 (by simp) rfl

theorem fill?_root {t items : Entries} (distinct : ((t ++ items).map (·.1)).Nodup) :
    fill? [] items t = some (t ++ items) := by
  induction items generalizing t with
  | nil => simp
  | cons e items ih =>
    have new := notMem_of_nodup distinct
    have first : along? [] (put? e.1 e.2) t = some (t ++ [e]) := put?_of_notMem new e.2
    simp only [fill?_cons, first, Option.bind_some, ih (t := t ++ [e]) (by simpa using distinct)]
    simp

/-- An item with a table in it that grows as things are put into the table. -/
def Grows (item? : Entries → Option Item → Option Item) : Prop :=
  ∀ u e old, e.1 ∉ u.map (·.1) →
    ((item? u old).bind fun i => enter? (put? e.1 e.2) (some i)) = item? (u ++ [e]) old

theorem grows_fresh? (standing : Standing) : Grows fun u => fresh? (.table standing u) := by
  intro u e old new
  cases old with
  | none => simp [fresh?, enter?, put?_of_notMem new]
  | some i => rfl

theorem grows_next? : Grows next? := by
  intro u e old new
  match old with
  | none => simp [next?, enter?, alterLast?, put?_of_notMem new]
  | some (.value _) => rfl
  | some (.table _ _) => rfl
  | some (.series us) => simp [next?, enter?, alterLast?_concat, put?_of_notMem new]

/-- A table that is begun and then filled item by item is put there whole. -/
theorem fill?_of_grows {item? : Entries → Option Item → Option Item} (grows : Grows item?)
    {u items : Entries} (distinct : ((u ++ items).map (·.1)).Nodup) (path : List String)
    (k : String) (root : Entries) :
    (along? path (alter? k (item? u)) root).bind (fill? (path ++ [k]) items) =
      along? path (alter? k (item? (u ++ items))) root := by
  induction items generalizing u with
  | nil => cases h : along? path (alter? k (item? u)) root <;> simp [h]
  | cons e items ih =>
    have new := notMem_of_nodup distinct
    have one : (along? path (alter? k (item? u)) root).bind (along? (path ++ [k]) (put? e.1 e.2)) =
        along? path (alter? k (item? (u ++ [e]))) root := by
      simp only [along?_snoc, along?_bind, alter?_bind, grows u e _ new]
    rw [fill?_cons, ← Option.bind_assoc, one, ih (by simpa using distinct)]
    simp

/-- A table without a header is made on the way to the first thing that is put into it. -/
theorem fill?_of_implied {e : String × Item} {items : Entries}
    (distinct : ((e :: items).map (·.1)).Nodup) {path : List String} {k : String}
    {root root' : Entries}
    (put : along? path (put? k (.table .implied (e :: items))) root = some root') :
    fill? (path ++ [k]) (e :: items) root = some root' := by
  have grown := fill?_of_grows (grows_fresh? .implied) (u := [e]) distinct path k root
  obtain ⟨root₁, first, others⟩ := Option.bind_eq_some_iff.mp (grown.trans put)
  have made : along? (path ++ [k]) (put? e.1 e.2) root = some root₁ := by
    rw [along?_snoc]
    refine along?_mono (fun _ _ => alter?_mono fun old i h => ?_) first
    cases old with
    | none => simpa [enter?, put?, alter?, fresh?] using h
    | some _ => cases h
  simpa [fill?_cons, made] using others

/-- Begins further tables of a series. -/
def nextAll? (path : List String) (k : String) (us : List Entries) (root : Entries) :
    Option Entries :=
  us.foldlM (fun root u => along? path (alter? k (next? u)) root) root

theorem nextAll?_cons (path : List String) (k : String) (u : Entries) (us : List Entries) :
    nextAll? path k (u :: us) =
      fun root => (along? path (alter? k (next? u)) root).bind (nextAll? path k us) := rfl

theorem nextAll?_of_put {path : List String} {k : String} {us : List Entries} (ne : us ≠ [])
    {root root' : Entries} (put : along? path (put? k (.series us)) root = some root') :
    nextAll? path k us root = some root' := by
  have grown (us vs : List Entries) :
      (along? path (put? k (.series us)) root).bind (nextAll? path k vs) =
        along? path (put? k (.series (us ++ vs))) root := by
    induction vs generalizing us with
    | nil => cases h : along? path (put? k (.series us)) root <;> simp [nextAll?, h]
    | cons v vs ih =>
      have one : (along? path (put? k (.series us)) root).bind (along? path (alter? k (next? v))) =
          along? path (put? k (.series (us ++ [v]))) root := by
        simp only [put?, along?_bind, alter?_bind]
        congr 2
        funext t
        congr 1
        funext old
        cases old <;> rfl
      rw [nextAll?_cons, ← Option.bind_assoc, one, ih]
      simp
  obtain ⟨u, us, rfl⟩ := List.exists_cons_of_ne_nil ne
  obtain ⟨root₁, first, others⟩ := Option.bind_eq_some_iff.mp ((grown [u] us).trans put)
  have begun : along? path (alter? k (next? u)) root = some root₁ := by
    refine along?_mono (fun _ _ => alter?_mono fun old i h => ?_) first
    cases old with
    | none => exact h
    | some _ => cases h
  simpa [nextAll?_cons, begun] using others

end PgMetrics.Toml
