import Mathlib.Data.List.Perm.Basic

/-!
# Computations that may fail

A computation over a list stops at its first error. It succeeds when it succeeds on every element,
and it fails with the error of an element before which there is no other.

## Main definitions

* `FailsFirst` — a row of checks, of which the first that finds a fault decides.
-/

namespace PgMetrics

variable {α β ε : Type}

theorem bind_eq_ok {x : Except ε α} {f : α → Except ε β} {b : β} :
    x >>= f = .ok b ↔ ∃ a, x = .ok a ∧ f a = .ok b := by
  cases x <;> simp [bind, Except.bind]

theorem bind_eq_error {x : Except ε α} {f : α → Except ε β} {e : ε} :
    x >>= f = .error e ↔ x = .error e ∨ ∃ a, x = .ok a ∧ f a = .error e := by
  cases x <;> simp [bind, Except.bind]

@[simp]
theorem map_eq_error {f : α → β} {x : Except ε α} {e : ε} : f <$> x = .error e ↔ x = .error e := by
  cases x <;> simp

theorem eq_ok_of_toOption {x : Except ε α} {a : α} (h : x.toOption = some a) : x = .ok a := by
  cases x with
  | error e => cases h
  | ok b => exact congrArg Except.ok (Option.some.inj h)

theorem eq_ok_get_toOption {x : Except ε α} (h : x.toOption.isSome = true) :
    x = .ok (x.toOption.get h) :=
  eq_ok_of_toOption (Option.some_get h).symm

theorem ne_error_of_isOk {x : Except ε α} (ok : x.isOk = true) (e : ε) : x ≠ .error e := by
  rintro rfl
  cases ok

theorem isOk_map (f : α → β) (x : Except ε α) : (x.map f).isOk = x.isOk := by
  cases x <;> rfl

/-- Two runs with the same outcome. -/
theorem exists_outcome {γ : Type} {p : α × β} {q : α × γ} (h : p.1 = q.1) :
    ∃ a x y, p = (a, x) ∧ q = (a, y) :=
  ⟨p.1, p.2, q.2, rfl, Prod.ext h.symm rfl⟩

theorem forM_eq_ok {f : α → Except ε Unit} {l : List α} :
    l.forM f = .ok () ↔ ∀ a ∈ l, f a = .ok () := by
  induction l with
  | nil => simp [pure, Except.pure]
  | cons a rest ih =>
    rw [List.forM_eq_forM] at ih ⊢
    rw [List.forM_cons, bind_eq_ok, List.forall_mem_cons, ← ih]
    exact ⟨fun ⟨(), ha, hrest⟩ => ⟨ha, hrest⟩, fun ⟨ha, hrest⟩ => ⟨(), ha, hrest⟩⟩

theorem forM_eq_error {f : α → Except ε Unit} {l : List α} {e : ε} :
    l.forM f = .error e ↔
      ∃ before a after, l = before ++ a :: after ∧ (∀ b ∈ before, f b = .ok ()) ∧
        f a = .error e := by
  induction l with
  | nil => simp [pure, Except.pure]
  | cons a rest ih =>
    rw [List.forM_eq_forM] at ih ⊢
    simp only [List.forM_cons, bind_eq_error, ih]
    constructor
    · rintro (h | ⟨⟨⟩, ha, before, b, after, rfl, hbefore, hb⟩)
      · exact ⟨[], a, rest, rfl, by simp, h⟩
      · exact ⟨a :: before, b, after, rfl, List.forall_mem_cons.mpr ⟨ha, hbefore⟩, hb⟩
    · rintro ⟨before, b, after, hl, hbefore, hb⟩
      cases before with
      | nil =>
        obtain ⟨rfl, rfl⟩ : a = b ∧ rest = after := by simpa using hl
        exact .inl hb
      | cons c before =>
        obtain ⟨rfl, rfl⟩ : a = c ∧ rest = before ++ b :: after := by simpa using hl
        obtain ⟨ha, hbefore⟩ := List.forall_mem_cons.mp hbefore
        exact .inr ⟨(), ha, before, b, after, rfl, hbefore, hb⟩

/-- What every step of a fold keeps is kept by the fold. -/
theorem of_foldlM_eq_ok {P : β → Prop} {f : β → α → Except ε β} {l : List α} {b r : β}
    (step : ∀ b a b', P b → f b a = .ok b' → P b') (start : P b) (h : l.foldlM f b = .ok r) :
    P r := by
  induction l generalizing b with
  | nil =>
    cases h
    exact start
  | cons a rest ih =>
    obtain ⟨b', stepped, h⟩ := bind_eq_ok.mp h
    exact ih (step b a b' start stepped) h

/-- A fold fails at the first step that does. -/
theorem foldlM_eq_error {f : β → α → Except ε β} {l : List α} {b : β} {e : ε} :
    l.foldlM f b = .error e ↔
      ∃ before a after b', l = before ++ a :: after ∧ before.foldlM f b = .ok b' ∧
        f b' a = .error e := by
  induction l generalizing b with
  | nil => simp [pure, Except.pure]
  | cons a rest ih =>
    simp only [List.foldlM_cons, bind_eq_error, ih]
    constructor
    · rintro (failed | ⟨b₁, first, before, c, after, b', rfl, reached, failed⟩)
      · exact ⟨[], a, rest, b, rfl, rfl, failed⟩
      · exact ⟨a :: before, c, after, b', rfl, bind_eq_ok.mpr ⟨b₁, first, reached⟩, failed⟩
    · rintro ⟨before, c, after, b', split, reached, failed⟩
      cases before with
      | nil =>
        obtain ⟨rfl, rfl⟩ : a = c ∧ rest = after := by simpa using split
        cases reached
        exact .inl failed
      | cons d before =>
        obtain ⟨rfl, rfl⟩ : a = d ∧ rest = before ++ c :: after := by simpa using split
        obtain ⟨b₁, first, reached⟩ := bind_eq_ok.mp reached
        exact .inr ⟨b₁, first, before, c, after, b', rfl, reached, failed⟩

/-- A list is mapped when all its elements are. -/
theorem mapM_eq_ok {f : α → Except ε β} {l : List α} {m : List β} :
    l.mapM f = .ok m ↔ List.Forall₂ (fun a b => f a = .ok b) l m := by
  induction l generalizing m with
  | nil => simp [pure, Except.pure, eq_comm]
  | cons a rest ih =>
    simp only [List.mapM_cons, bind_eq_ok, ih, List.forall₂_cons_left_iff]
    constructor
    · rintro ⟨b, hb, tail, htail, h⟩
      obtain rfl : b :: tail = m := by simpa [pure, Except.pure] using h
      exact ⟨b, tail, hb, htail, rfl⟩
    · rintro ⟨b, tail, hb, htail, rfl⟩
      exact ⟨b, hb, tail, htail, rfl⟩

theorem mapM_eq_some {f : α → Option β} {l : List α} {m : List β} :
    l.mapM f = some m ↔ List.Forall₂ (fun a b => f a = some b) l m := by
  induction l generalizing m with
  | nil => simp [eq_comm]
  | cons a rest ih =>
    simp only [List.mapM_cons, Option.bind_eq_bind, Option.bind_eq_some_iff, Option.pure_def,
      Option.some.injEq, ih, List.forall₂_cons_left_iff]
    constructor
    · rintro ⟨b, hb, tail, htail, rfl⟩
      exact ⟨b, tail, hb, htail, rfl⟩
    · rintro ⟨b, tail, hb, htail, rfl⟩
      exact ⟨b, hb, tail, htail, rfl⟩

theorem mapM_eq_error {f : α → Except ε β} {l : List α} {e : ε} :
    l.mapM f = .error e ↔
      ∃ before a after, l = before ++ a :: after ∧ (∀ b ∈ before, ∃ c, f b = .ok c) ∧
        f a = .error e := by
  induction l with
  | nil => simp [pure, Except.pure]
  | cons a rest ih =>
    have done {b : β} {m : List β} : (pure (b :: m) : Except ε (List β)) ≠ .error e := nofun
    simp only [List.mapM_cons, bind_eq_error, ih, done, and_false, exists_false, or_false]
    constructor
    · rintro (h | ⟨c, ha, before, b, after, rfl, hbefore, hb⟩)
      · exact ⟨[], a, rest, rfl, by simp, h⟩
      · exact ⟨a :: before, b, after, rfl, List.forall_mem_cons.mpr ⟨⟨c, ha⟩, hbefore⟩, hb⟩
    · rintro ⟨before, b, after, hl, hbefore, hb⟩
      cases before with
      | nil =>
        obtain ⟨rfl, rfl⟩ : a = b ∧ rest = after := by simpa using hl
        exact .inl hb
      | cons c before =>
        obtain ⟨rfl, rfl⟩ : a = c ∧ rest = before ++ b :: after := by simpa using hl
        obtain ⟨⟨d, ha⟩, hbefore⟩ := List.forall_mem_cons.mp hbefore
        exact .inr ⟨d, ha, before, b, after, rfl, hbefore, hb⟩

theorem exists_of_forall₂_left {R : α → β → Prop} {l : List α} {m : List β}
    (h : List.Forall₂ R l m) {a : α} (mem : a ∈ l) : ∃ b ∈ m, R a b := by
  induction h with
  | nil => cases mem
  | cons first _ ih =>
    rcases List.mem_cons.mp mem with rfl | mem
    · exact ⟨_, List.mem_cons_self, first⟩
    · obtain ⟨b, mem', related⟩ := ih mem
      exact ⟨b, List.mem_cons_of_mem _ mem', related⟩

theorem exists_of_forall₂_right {R : α → β → Prop} {l : List α} {m : List β}
    (h : List.Forall₂ R l m) {b : β} (mem : b ∈ m) : ∃ a ∈ l, R a b :=
  exists_of_forall₂_left h.flip mem

/-- What is picked from the results comes from a part of the list. -/
theorem exists_sublist_of_filterMap {γ : Type} {R : α → β → Prop} {g : β → Option γ} {l : List α}
    {m : List β} (h : List.Forall₂ R l m) :
    ∃ part, part.Sublist l ∧
      List.Forall₂ (fun a c => ∃ b, R a b ∧ g b = some c) part (m.filterMap g) := by
  induction h with
  | nil => exact ⟨[], .slnil, .nil⟩
  | @cons a b l m first _ ih =>
    obtain ⟨part, sublist, related⟩ := ih
    cases picked : g b with
    | none =>
      rw [List.filterMap_cons_none picked]
      exact ⟨part, sublist.cons a, related⟩
    | some c =>
      rw [List.filterMap_cons_some picked]
      exact ⟨a :: part, sublist.cons_cons a, .cons ⟨b, first, picked⟩ related⟩

theorem exists_ok_of_mapM {f : α → Except ε β} {l : List α} {m : List β} {a : α}
    (h : l.mapM f = .ok m) (mem : a ∈ l) : ∃ b, f a = .ok b := by
  obtain ⟨b, -, mapped⟩ := exists_of_forall₂_left (mapM_eq_ok.mp h) mem
  exact ⟨b, mapped⟩

theorem exists_of_mem_mapM {f : α → Except ε β} {l : List α} {m : List β} {b : β}
    (h : l.mapM f = .ok m) (mem : b ∈ m) : ∃ a ∈ l, f a = .ok b :=
  exists_of_forall₂_right (mapM_eq_ok.mp h) mem

/-- A list in another order is mapped to the results in another order. -/
theorem exists_perm_of_mapM {f : α → Except ε β} {l m : List α} {bs : List β} (h : l.Perm m)
    (mapped : l.mapM f = .ok bs) : ∃ cs, m.mapM f = .ok cs ∧ cs.Perm bs := by
  obtain ⟨cs, related, perm⟩ := List.perm_comp_forall₂ h.symm (mapM_eq_ok.mp mapped)
  exact ⟨cs, mapM_eq_ok.mpr related, perm⟩

/-- Lists whose elements go the same way are mapped alike. -/
theorem mapM_congr_forall₂ {γ : Type} {f : α → Except ε γ} {g : β → Except ε γ} {l : List α}
    {m : List β} (h : List.Forall₂ (fun a b => f a = g b) l m) : l.mapM f = m.mapM g := by
  induction h with
  | nil => rfl
  | cons first _ ih => rw [List.mapM_cons, List.mapM_cons, first, ih]

/-- A computation over lists in a row is one over all their elements. -/
theorem mapM_flatMap {γ : Type} (f : β → Except ε γ) (g : α → List β) (l : List α) :
    (l.flatMap g).mapM f = List.flatten <$> l.mapM fun a => (g a).mapM f := by
  induction l with
  | nil => simp
  | cons a rest ih => simp [ih]

/-- A computation that fails on no element gives a list. -/
theorem exists_mapM_of_forall {f : α → Except ε β} {l : List α}
    (h : ∀ a ∈ l, ∃ b, f a = .ok b) : ∃ m, l.mapM f = .ok m := by
  induction l with
  | nil => exact ⟨[], rfl⟩
  | cons a rest ih =>
    obtain ⟨⟨b, first⟩, others⟩ := List.forall_mem_cons.mp h
    obtain ⟨m, mapped⟩ := ih others
    refine ⟨b :: m, mapM_eq_ok.mpr (.cons first (mapM_eq_ok.mp mapped))⟩

/-! ## Checks in a row -/

/-- A computation that gives a result of the kind `P` if there are no faults, and fails with the
first of them if there are. -/
def FailsFirst (faults : List ε) (x : Except ε α) (P : α → Prop) : Prop :=
  (faults = [] ∧ ∃ a, x = .ok a ∧ P a) ∨ ∃ e, faults.head? = some e ∧ x = .error e

namespace FailsFirst

variable {faults more : List ε} {x : Except ε α} {P : α → Prop}

theorem ok {a : α} (h : P a) : FailsFirst [] (.ok a : Except ε α) P := .inl ⟨rfl, a, rfl, h⟩

theorem error (e : ε) (P : α → Prop) : FailsFirst [e] (.error e) P := .inr ⟨e, rfl, rfl⟩

/-- The faults of a first computation come before those of the one that goes on from its result. -/
theorem bind {Q : β → Prop} {f : α → Except ε β} (h : FailsFirst faults x P)
    (next : ∀ a, P a → FailsFirst more (f a) Q) : FailsFirst (faults ++ more) (x >>= f) Q := by
  rcases h with ⟨rfl, a, rfl, property⟩ | ⟨e, first, rfl⟩
  · exact next a property
  · refine .inr ⟨e, ?_, rfl⟩
    rw [List.head?_append, first]
    rfl

/-- The faults of a computation on each element come in the order of the elements. -/
theorem forM {f : β → Except ε Unit} {g : β → List ε} {l : List β}
    (each : ∀ b ∈ l, FailsFirst (g b) (f b) fun _ => True) :
    FailsFirst (l.flatMap g) (l.forM f) fun _ => True := by
  induction l with
  | nil => exact .ok trivial
  | cons b rest ih =>
    obtain ⟨first, others⟩ := List.forall_mem_cons.mp each
    rw [List.forM_eq_forM] at ih ⊢
    rw [List.flatMap_cons, List.forM_cons]
    exact first.bind fun _ _ => ih others

theorem eq_ok_iff {f : List ε} {x : Except ε Unit} (h : FailsFirst f x fun _ => True) :
    x = .ok () ↔ f = [] := by
  rcases h with ⟨rfl, a, rfl, -⟩ | ⟨e, first, rfl⟩
  · simp
  · simp only [reduceCtorEq, false_iff]
    rintro rfl
    cases first

theorem eq_error_iff (h : FailsFirst faults x P) {e : ε} :
    x = .error e ↔ faults.head? = some e := by
  rcases h with ⟨rfl, a, rfl, -⟩ | ⟨e', first, rfl⟩
  · simp
  · simp [first]

end FailsFirst

end PgMetrics
