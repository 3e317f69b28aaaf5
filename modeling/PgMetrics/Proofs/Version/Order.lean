import Mathlib.Algebra.Group.Nat.Defs
import PgMetrics.Version.Basic

/-!
# The order of versions

Versions are counted: the place of a version is the number of versions before it. The order of
versions is the order of their places, and the version that follows another one is found by adding
one with carry.

## Main definitions

* `Version.place` — how many versions come before a version.
* `Version.next?` — the version right after another one.
-/

namespace PgMetrics.Version

/-- How many versions come before `v`. -/
def place (v : Version) : Nat :=
  (v.major.toNat * 2 ^ 64 + v.minor.toNat) * 2 ^ 64 + v.patch.toNat

/-- The greatest value of a part. -/
def greatestPart : UInt64 := 18446744073709551615

/-- The version before all others. -/
def least : Version := ⟨0, 0, 0⟩

/-- The version after all others. -/
def greatest : Version := ⟨greatestPart, greatestPart, greatestPart⟩

/-- The version right after `v`; a part at its limit is carried. -/
def next? (v : Version) : Option Version :=
  if v.patch ≠ greatestPart then some ⟨v.major, v.minor, v.patch + 1⟩
  else if v.minor ≠ greatestPart then some ⟨v.major, v.minor + 1, 0⟩
  else if v.major ≠ greatestPart then some ⟨v.major + 1, 0, 0⟩
  else none

@[simp] theorem toNat_greatestPart : greatestPart.toNat = 2 ^ 64 - 1 := rfl

/-! ## Places -/

theorem place_lt (v : Version) : v.place < 2 ^ 192 := by
  have h1 := v.major.toNat_lt
  have h2 := v.minor.toNat_lt
  have h3 := v.patch.toNat_lt
  unfold place
  omega

@[simp] theorem place_least : least.place = 0 := rfl

@[simp] theorem place_greatest : greatest.place = 2 ^ 192 - 1 := rfl

theorem place_injective {a b : Version} (h : a.place = b.place) : a = b := by
  have := a.minor.toNat_lt
  have := b.minor.toNat_lt
  have := a.patch.toNat_lt
  have := b.patch.toNat_lt
  unfold place at h
  cases a
  cases b
  simp only [mk.injEq, ← UInt64.toNat_inj] at *
  omega

@[simp] theorem place_inj {a b : Version} : a.place = b.place ↔ a = b :=
  ⟨place_injective, fun h => h ▸ rfl⟩

/-- Every place below the limit is taken. -/
theorem exists_place {n : Nat} (h : n < 2 ^ 192) : ∃ v : Version, v.place = n := by
  -- the parts are the digits of `n` to the base `2 ^ 64`
  refine ⟨⟨.ofNat (n / 2 ^ 128), .ofNat (n / 2 ^ 64 % 2 ^ 64), .ofNat (n % 2 ^ 64)⟩, ?_⟩
  simp only [place, UInt64.toNat_ofNat']
  omega

/-! ## The order -/

/-- Versions are ordered as their places. -/
theorem compare_eq_compare_place (a b : Version) : compare a b = compare a.place b.place := by
  have := a.minor.toNat_lt
  have := b.minor.toNat_lt
  have := a.patch.toNat_lt
  have := b.patch.toNat_lt
  change (compare a.major b.major).then
    ((compare a.minor b.minor).then (compare a.patch b.patch)) = _
  cases h : compare a.place b.place
  all_goals
    simp only [Nat.compare_eq_lt, Nat.compare_eq_eq, Nat.compare_eq_gt, place] at h
    simp only [Ordering.then_eq_lt, Ordering.then_eq_eq, Ordering.then_eq_gt, Std.compare_eq_lt,
      Std.compare_eq_gt, Std.compare_eq_iff_eq, UInt64.lt_iff_toNat_lt, ← UInt64.toNat_inj]
    omega

theorem compare_eq_lt {a b : Version} : compare a b = .lt ↔ a.place < b.place := by
  rw [compare_eq_compare_place, Nat.compare_eq_lt]

theorem compare_eq_gt {a b : Version} : compare a b = .gt ↔ b.place < a.place := by
  rw [compare_eq_compare_place, Nat.compare_eq_gt]

theorem compare_eq_eq {a b : Version} : compare a b = .eq ↔ a = b := by
  rw [compare_eq_compare_place, Nat.compare_eq_eq, place_inj]

/-! ## The version that follows -/

theorem toNat_succ {p : UInt64} (h : p ≠ greatestPart) : (p + 1).toNat = p.toNat + 1 := by
  have bound := p.toNat_lt
  have limit : p.toNat ≠ 2 ^ 64 - 1 := fun e => h (UInt64.toNat_inj.mp e)
  rw [UInt64.toNat_add, UInt64.toNat_one]
  omega

/-- The carry is right: the version that follows takes the next place. -/
theorem place_of_next?_eq_some {a b : Version} (h : a.next? = some b) : b.place = a.place + 1 := by
  unfold next? at h
  split at h
  · rename_i patch
    obtain rfl := Option.some.inj h
    simp only [place, toNat_succ patch]
    omega
  · split at h
    · rename_i patch minor
      obtain rfl := Option.some.inj h
      have : a.patch = greatestPart := by simpa using patch
      simp only [place, toNat_succ minor, toNat_greatestPart, UInt64.toNat_zero, this]
      omega
    · split at h
      · rename_i patch minor major
        obtain rfl := Option.some.inj h
        have : a.patch = greatestPart := by simpa using patch
        have : a.minor = greatestPart := by simpa using minor
        simp only [place, toNat_succ major, toNat_greatestPart, UInt64.toNat_zero, *]
        omega
      · cases h

/-- Only the greatest version has none after it. -/
theorem next?_eq_none {a : Version} : a.next? = none ↔ a = greatest := by
  obtain ⟨major, minor, patch⟩ := a
  simp only [next?, greatest]
  grind

theorem next?_eq_some {a b : Version} : a.next? = some b ↔ b.place = a.place + 1 := by
  refine ⟨place_of_next?_eq_some, fun h => ?_⟩
  cases next : a.next? with
  | none =>
    obtain rfl := next?_eq_none.mp next
    have := b.place_lt
    simp at h
    omega
  | some c =>
    have := place_of_next?_eq_some next
    exact congrArg some (place_injective (by omega))

end PgMetrics.Version
