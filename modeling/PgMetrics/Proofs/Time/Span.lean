import Mathlib.Tactic.Ring
import PgMetrics.Time.Span

/-!
# Multiples of a span

A multiple of a span is exact as long as its seconds fit 64 bits, and the greatest span beyond that.

## Main results

* `Span.total_injective`, `Span.total_le_greatest` — spans as numbers of nanoseconds.
* `Span.total_scale` — the nanoseconds of a multiple.
* `Span.scale_eq_greatest`, `Span.scale_mono_left`, `Span.scale_mono_right` — where multiples end,
  and that they grow.
-/

namespace PgMetrics.Span

/-! ## Nanoseconds -/

/-- A span is told by its nanoseconds. -/
theorem total_injective : Function.Injective total := by
  intro s t same
  unfold total nanosPerSecond at same
  have seconds : s.seconds.toNat = t.seconds.toNat := by omega
  have nanos : s.nanos.val = t.nanos.val := by omega
  obtain ⟨_, _⟩ := s
  obtain ⟨_, _⟩ := t
  obtain rfl := UInt64.toNat_inj.mp seconds
  obtain rfl := Fin.ext nanos
  rfl

theorem total_greatest : greatest.total + 1 = UInt64.size * nanosPerSecond := by decide

theorem total_le_greatest (s : Span) : s.total ≤ greatest.total := by
  have seconds : s.seconds.toNat < UInt64.size := s.seconds.toNat_lt
  have nanos := s.nanos.isLt
  rw [← Nat.lt_succ_iff, Nat.succ_eq_add_one, total_greatest]
  unfold total nanosPerSecond UInt64.size at *
  omega

@[simp]
theorem le_iff {s t : Span} : s.le t = true ↔ s.total ≤ t.total := decide_eq_true_iff

/-! ## Multiples -/

theorem total_ofParts {seconds nanos : Nat} (fits : seconds < UInt64.size)
    (below : nanos < 1000000000) :
    ((ofParts? seconds nanos).getD greatest).total = seconds * nanosPerSecond + nanos := by
  unfold ofParts?
  rw [if_pos fits, dif_pos below]
  simp [total, UInt64.toNat_ofNat_of_lt' fits]

theorem ofParts_of_overflow {seconds : Nat} (overflow : ¬ seconds < UInt64.size) (nanos : Nat) :
    (ofParts? seconds nanos).getD greatest = greatest := by
  unfold ofParts?
  rw [if_neg overflow]
  rfl

/-- A multiple has as many nanoseconds as the span has, times the number, up to the greatest
span. -/
theorem total_scale (s : Span) (n : Nat) :
    (s.scale n).total = min (n * s.total) greatest.total := by
  let carry := s.nanos.val * n / nanosPerSecond
  let rest := s.nanos.val * n % nanosPerSecond
  have below : rest < 1000000000 := Nat.mod_lt _ (by decide)
  have whole : n * s.total = (s.seconds.toNat * n + carry) * nanosPerSecond + rest := by
    have carried : carry * nanosPerSecond + rest = s.nanos.val * n := Nat.div_add_mod' ..
    rw [Nat.add_mul, Nat.add_assoc, carried, total]
    ring
  have most := total_greatest
  have scaled : s.scale n = (ofParts? (s.seconds.toNat * n + carry) rest).getD greatest := by
    unfold scale
    dsimp only
    split
    case isTrue => rfl
    case isFalse overflow =>
      have beyond := mt (Nat.lt_of_le_of_lt (Nat.le_add_right _ carry)) overflow
      exact (ofParts_of_overflow beyond rest).symm
  by_cases fits : s.seconds.toNat * n + carry < UInt64.size
  · have below' := Nat.mul_le_mul_right nanosPerSecond (Nat.succ_le_of_lt fits)
    rw [scaled, total_ofParts fits below, ← whole, Nat.min_eq_left]
    unfold nanosPerSecond at *
    omega
  · have beyond := Nat.mul_le_mul_right nanosPerSecond (Nat.le_of_not_lt fits)
    rw [scaled, ofParts_of_overflow fits, Nat.min_eq_right]
    omega

/-- Whether the seconds of a multiple fit 64 bits. -/
theorem scale_fits_iff {s : Span} {n : Nat} :
    n * s.total / nanosPerSecond < UInt64.size ↔ n * s.total ≤ greatest.total := by
  rw [Nat.div_lt_iff_lt_mul (by decide), ← total_greatest, Nat.lt_succ_iff]

theorem total_scale_of_fits {s : Span} {n : Nat}
    (fits : n * s.total / nanosPerSecond < UInt64.size) : (s.scale n).total = n * s.total := by
  rw [total_scale, Nat.min_eq_left (scale_fits_iff.mp fits)]

theorem scale_eq_greatest {s : Span} {n : Nat}
    (overflow : ¬ n * s.total / nanosPerSecond < UInt64.size) : s.scale n = greatest := by
  apply total_injective
  rw [scale_fits_iff, Nat.not_le] at overflow
  rw [total_scale, Nat.min_eq_right (Nat.le_of_lt overflow)]

theorem scale_mono_left {s t : Span} (h : s.total ≤ t.total) (n : Nat) :
    (s.scale n).total ≤ (t.scale n).total := by
  have longer : n * s.total ≤ n * t.total := Nat.mul_le_mul_left n h
  rw [total_scale, total_scale]
  omega

theorem scale_mono_right (s : Span) {m n : Nat} (h : m ≤ n) :
    (s.scale m).total ≤ (s.scale n).total := by
  have longer : m * s.total ≤ n * s.total := Nat.mul_le_mul_right s.total h
  rw [total_scale, total_scale]
  omega

end PgMetrics.Span
