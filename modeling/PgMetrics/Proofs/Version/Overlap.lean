import PgMetrics.Proofs.Version.Order
import PgMetrics.Version.Range

/-!
# Overlap of version ranges

An interval of versions is a half-open interval of places: a lower end gives the first place that is
let in and an upper end the first that is not. Meeting two intervals takes the greater first place
and the lesser limit, so the interval of a range holds the versions that the range admits.

Emptiness is decided as if between any two versions there were a third. It is therefore right when
it says that an interval is empty, and when it says that one is not it errs on three shapes only.

## Main definitions

* `VersionInterval.Contains` — the versions between the ends.
* `VersionInterval.IsGap` — the three shapes without a version that do not count as empty.
-/

namespace PgMetrics

namespace VersionInterval

/-- The first place that a lower end lets in. -/
def start : Option IntervalEnd → Nat
  | none => 0
  | some e => if e.closed then e.version.place else e.version.place + 1

/-- The first place that an upper end keeps out. -/
def stop : Option IntervalEnd → Nat
  | none => 2 ^ 192
  | some e => if e.closed then e.version.place + 1 else e.version.place

/-- Whether a version lies between the ends. -/
def Contains (i : VersionInterval) (v : Version) : Prop :=
  start i.lower ≤ v.place ∧ v.place < stop i.upper

/-- A version and the one right after it, neither of which is let in; everything before the first
version; everything after the last one. -/
def IsGap (i : VersionInterval) : Prop :=
  i.upper = some ⟨.least, false⟩ ∨
  i.lower = some ⟨.greatest, false⟩ ∨
  ∃ lo hi, i.lower = some ⟨lo, false⟩ ∧ i.upper = some ⟨hi, false⟩ ∧ lo.next? = some hi

/-! ## Meeting intervals -/

theorem stop_le (e : Option IntervalEnd) : stop e ≤ 2 ^ 192 := by
  cases e with
  | none => exact Nat.le_refl _
  | some e =>
    have := e.version.place_lt
    unfold stop
    grind

theorem start_tighter (a b : Option IntervalEnd) :
    start (tighter .lt a b) = max (start a) (start b) := by
  cases a with
  | none => simp [tighter, start]
  | some a =>
    cases b with
    | none => simp [tighter, start]
    | some b =>
      cases h : compare a.version b.version with
      | lt =>
        have := Version.compare_eq_lt.mp h
        simp only [tighter, h, start]
        grind
      | eq =>
        have := Version.compare_eq_eq.mp h
        simp only [tighter, h, start]
        grind
      | gt =>
        have := Version.compare_eq_gt.mp h
        simp only [tighter, h, start]
        grind

theorem stop_tighter (a b : Option IntervalEnd) :
    stop (tighter .gt a b) = min (stop a) (stop b) := by
  cases a with
  | none => have := stop_le b; simp [tighter, stop] at *; omega
  | some a =>
    cases b with
    | none => have := stop_le (some a); simp [tighter, stop] at *; omega
    | some b =>
      cases h : compare a.version b.version with
      | lt =>
        have := Version.compare_eq_lt.mp h
        simp only [tighter, h, stop]
        grind
      | eq =>
        have := Version.compare_eq_eq.mp h
        simp only [tighter, h, stop]
        grind
      | gt =>
        have := Version.compare_eq_gt.mp h
        simp only [tighter, h, stop]
        grind

theorem contains_meet (i j : VersionInterval) (v : Version) :
    (i.meet j).Contains v ↔ i.Contains v ∧ j.Contains v := by
  simp only [Contains, meet, start_tighter, stop_tighter]
  omega

theorem contains_all (v : Version) : all.Contains v := ⟨Nat.zero_le _, v.place_lt⟩

theorem contains_ofBound (b : VersionBound) (v : Version) :
    (ofBound b).Contains v ↔ b.admits v := by
  have := v.place_lt
  have order := Version.compare_eq_compare_place v b.version
  have lt := @Nat.compare_eq_lt v.place b.version.place
  have eq := @Nat.compare_eq_eq v.place b.version.place
  have gt := @Nat.compare_eq_gt v.place b.version.place
  cases h : b.relation <;>
    simp only [Contains, ofBound, VersionBound.admits, start, stop, h, order] <;>
    grind

/-! ## Emptiness -/

/-- An interval without a place for any version, in a dense order or not. -/
theorem not_contains_of_isEmpty {i : VersionInterval} (h : i.isEmpty) (v : Version) :
    ¬ i.Contains v := by
  obtain ⟨lower, upper⟩ := i
  cases lower with
  | none => simp [isEmpty] at h
  | some lo =>
    cases upper with
    | none => simp [isEmpty] at h
    | some hi =>
      cases order : compare lo.version hi.version with
      | lt => simp [isEmpty, order] at h
      | eq =>
        have := Version.compare_eq_eq.mp order
        simp only [isEmpty, order, Contains, start, stop] at *
        grind
      | gt =>
        have := Version.compare_eq_gt.mp order
        simp only [isEmpty, order, Contains, start, stop] at *
        grind

theorem exists_contains {i : VersionInterval} :
    (∃ v, i.Contains v) ↔ start i.lower < stop i.upper := by
  constructor
  · rintro ⟨v, above, below⟩
    exact Nat.lt_of_le_of_lt above below
  · intro h
    obtain ⟨v, hv⟩ := Version.exists_place (Nat.lt_of_lt_of_le h (stop_le i.upper))
    exact ⟨v, Nat.le_of_eq hv.symm, hv ▸ h⟩

/-- Of the intervals that do not count as empty, exactly the gaps are without a version. -/
theorem exists_contains_iff_not_isGap {i : VersionInterval} (h : i.isEmpty = false) :
    (∃ v, i.Contains v) ↔ ¬ i.IsGap := by
  rw [exists_contains]
  obtain ⟨lower, upper⟩ := i
  cases lower with
  | none =>
    cases upper with
    | none => simp [IsGap, start, stop]
    | some hi =>
      -- only an open end at the first version leaves no room
      obtain ⟨hi, closed⟩ := hi
      have : hi = .least ↔ hi.place = 0 := by rw [← Version.place_inj, Version.place_least]
      simp only [IsGap, start, stop]
      grind
  | some lo =>
    obtain ⟨lo, loClosed⟩ := lo
    have := lo.place_lt
    have last : lo = .greatest ↔ lo.place = 2 ^ 192 - 1 := by
      rw [← Version.place_inj, Version.place_greatest]
    cases upper with
    | none =>
      simp only [IsGap, start, stop]
      grind
    | some hi =>
      obtain ⟨hi, hiClosed⟩ := hi
      have := hi.place_lt
      have first : hi = .least ↔ hi.place = 0 := by rw [← Version.place_inj, Version.place_least]
      -- ends in ascending order leave no room only between neighbours that are both kept out
      have follows := @Version.next?_eq_some lo hi
      have order := Version.compare_eq_compare_place lo hi
      have lt := @Nat.compare_eq_lt lo.place hi.place
      have eq := @Nat.compare_eq_eq lo.place hi.place
      simp only [isEmpty, order, IsGap, start, stop] at *
      grind

end VersionInterval

namespace VersionRange

open VersionInterval

/-- The interval of a range holds what the range admits. The interval is folded from the left, so
the statement is about the fold from any interval. -/
theorem contains_interval (r : VersionRange) (v : Version) :
    (interval r).Contains v ↔ admits r v := by
  have fold (i : VersionInterval) :
      (r.foldl (fun i b => i.meet (.ofBound b)) i).Contains v ↔ i.Contains v ∧ admits r v := by
    induction r generalizing i with
    | nil => simp [admits]
    | cons b rest ih =>
      rw [List.foldl_cons, ih, contains_meet, contains_ofBound]
      simp [admits, and_assoc]
  exact (fold .all).trans ⟨And.right, fun h => ⟨contains_all v, h⟩⟩

theorem contains_meet_interval (a b : VersionRange) (v : Version) :
    ((interval a).meet (interval b)).Contains v ↔ admits a v ∧ admits b v := by
  rw [contains_meet, contains_interval, contains_interval]

/-- Ranges that do not overlap share no version. -/
theorem not_admits_of_not_overlaps {a b : VersionRange} (h : overlaps a b = false) (v : Version) :
    ¬ (admits a v ∧ admits b v) := by
  rw [← contains_meet_interval]
  exact not_contains_of_isEmpty (by simpa [overlaps] using h) v

/-- The check for overlap is sound, and a positive answer is wrong for gaps only. -/
theorem overlaps_sound_and_exact (a b : VersionRange) :
    (overlaps a b = false → ∀ v, ¬ (admits a v ∧ admits b v)) ∧
    (overlaps a b = true →
      ((∃ v, admits a v ∧ admits b v) ↔ ¬ ((interval a).meet (interval b)).IsGap)) := by
  refine ⟨not_admits_of_not_overlaps, fun h => ?_⟩
  simp only [← contains_meet_interval]
  exact exists_contains_iff_not_isGap (by simpa [overlaps] using h)

/-- Above a version and below the next one there is none, and still the ranges count as
overlapping. -/
theorem overlaps_of_next :
    overlaps [⟨.above, ⟨1, 0, 0⟩⟩] [⟨.below, ⟨1, 0, 1⟩⟩] = true ∧
      ¬ ∃ v, admits [⟨.above, ⟨1, 0, 0⟩⟩] v ∧ admits [⟨.below, ⟨1, 0, 1⟩⟩] v := by
  refine ⟨rfl, fun shared => ?_⟩
  refine ((overlaps_sound_and_exact [⟨.above, ⟨1, 0, 0⟩⟩] [⟨.below, ⟨1, 0, 1⟩⟩]).2 rfl).mp shared ?_
  exact .inr (.inr ⟨⟨1, 0, 0⟩, ⟨1, 0, 1⟩, rfl, rfl, rfl⟩)

end VersionRange

end PgMetrics
