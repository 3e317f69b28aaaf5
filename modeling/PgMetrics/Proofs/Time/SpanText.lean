import PgMetrics.Proofs.Outcome
import PgMetrics.Time.SpanText

/-!
# Written spans that brim over

Numbers that do not fit make a written span malformed, with one exception. Nanoseconds that come to
exactly one second are carried last, and if the seconds are at their greatest by then the carry has
nowhere to go. The span that the text stands for has then exactly `2 ^ 64` seconds.

## Main definitions

* `Span.Fills` — nanoseconds that come to the last second and do not fit.
* `Span.ReadsTerm` — how far a text is read at the end of one of its terms.
* `Span.BrimsOver` — the texts with a term that does not fit in this way.

## Main results

* `Span.Fills.total` — the seconds that do not fit.
* `Span.add_eq_carryOverflow_iff`, `Span.addTerm_eq_carryOverflow_iff` — one amount, one term.
* `Span.parse_eq_carryOverflow_iff` — whole texts.
-/

namespace PgMetrics.Span

/-- The seconds are at their greatest, and with so many more nanoseconds there is another. -/
structure Fills (s : Span) (nanos : Nat) : Prop where
  seconds : s.seconds.toNat + 1 = UInt64.size
  nanos : s.nanos.val + nanos = nanosPerSecond

/-- Nanoseconds that fill a span come to the first second that does not fit. -/
theorem Fills.total {s : Span} {nanos : Nat} (h : s.Fills nanos) :
    s.total + nanos = UInt64.size * nanosPerSecond := by
  rw [Span.total, ← h.seconds, Nat.add_mul, Nat.one_mul, Nat.add_assoc, h.nanos]

/-! ## One amount -/

theorem checked_eq_ok_iff {n m : Nat} : checked n = .ok m ↔ n < UInt64.size ∧ n = m := by
  unfold checked
  split
  case isTrue fits => simp [fits]
  case isFalse overflow => simp [overflow]

theorem checked_ne_carryOverflow {n : Nat} : checked n ≠ .error .carryOverflow := by
  unfold checked
  split <;> simp

theorem carried?_eq_none_iff {seconds nanos : Nat} :
    carried? seconds nanos = none ↔ UInt64.size ≤ seconds + nanos / nanosPerSecond := by
  have below : nanos % nanosPerSecond < 1000000000 := Nat.mod_lt _ (by decide)
  simp [carried?, ofParts?, below]

/-- The last carry overflows on seconds that fit by themselves. -/
theorem carry_eq_carryOverflow_iff {seconds nanos : Nat} :
    (do
      let seconds ← checked seconds
      match carried? seconds nanos with
      | some t => .ok t
      | none => .error .carryOverflow) = .error .carryOverflow ↔
      seconds < UInt64.size ∧ UInt64.size ≤ seconds + nanos / nanosPerSecond := by
  simp only [bind_eq_error, checked_ne_carryOverflow, false_or, checked_eq_ok_iff,
    ← carried?_eq_none_iff]
  constructor
  · rintro ⟨_, ⟨fits, rfl⟩, carried⟩
    refine ⟨fits, ?_⟩
    split at carried
    case h_1 => cases carried
    case h_2 none => exact none
  · rintro ⟨fits, none⟩
    exact ⟨seconds, ⟨fits, rfl⟩, by rw [none]⟩

/-- An added amount overflows the carry if all nanoseconds come to exactly one second and all whole
seconds to the greatest number: more nanoseconds are carried before the seconds are checked. -/
theorem add_eq_carryOverflow_iff {s : Span} {seconds nanos : Nat} :
    s.add seconds nanos = .error .carryOverflow ↔
      s.seconds.toNat + seconds + 1 = UInt64.size ∧ s.nanos.val + nanos = nanosPerSecond := by
  have size : UInt64.size = 18446744073709551616 := rfl
  unfold add
  simp only [bind_eq_error, checked_ne_carryOverflow, false_or, checked_eq_ok_iff]
  constructor
  · rintro ⟨_, ⟨-, rfl⟩, h⟩
    split at h
    case isTrue carries =>
      rcases bind_eq_error.mp h with h | ⟨_, -, h⟩
      · exact absurd h checked_ne_carryOverflow
      have overflow := carry_eq_carryOverflow_iff.mp h
      unfold nanosPerSecond at *
      omega
    case isFalse small =>
      have overflow := carry_eq_carryOverflow_iff.mp h
      unfold nanosPerSecond at *
      omega
  · rintro ⟨full, whole⟩
    unfold nanosPerSecond at whole
    refine ⟨_, ⟨by omega, rfl⟩, ?_⟩
    have small : ¬ nanosPerSecond < s.nanos.val + nanos := by
      unfold nanosPerSecond
      omega
    simp only [if_neg small]
    refine carry_eq_carryOverflow_iff.mpr ?_
    unfold nanosPerSecond
    omega

/-! ## One term -/

section Term

variable {s : Span} {factor : Nat × Bool}

/-- Whole seconds never overflow the carry. -/
theorem add_seconds_ne_carryOverflow {seconds : Nat} :
    s.add seconds 0 ≠ .error .carryOverflow := by
  have below := s.nanos.isLt
  rw [ne_eq, add_eq_carryOverflow_iff]
  unfold nanosPerSecond
  omega

theorem add_nanos_eq_carryOverflow_iff {nanos : Nat} :
    s.add 0 nanos = .error .carryOverflow ↔ s.Fills nanos := by
  rw [add_eq_carryOverflow_iff]
  exact ⟨fun h => ⟨h.1, h.2⟩, fun h => ⟨h.seconds, h.nanos⟩⟩

theorem Fills.lt {nanos : Nat} (h : s.Fills nanos) : nanos < UInt64.size := by
  have second : nanosPerSecond < UInt64.size := by decide
  have whole := h.nanos
  omega

theorem addCount_eq_carryOverflow_iff {count : Nat} :
    s.addCount count factor = .error .carryOverflow ↔
      factor.2 = false ∧ s.Fills (count * factor.1) := by
  unfold addCount
  simp only [bind_eq_error, checked_ne_carryOverflow, false_or, checked_eq_ok_iff]
  cases factor.2 with
  | true => simp [add_seconds_ne_carryOverflow]
  | false =>
    simp only [Bool.false_eq_true, ↓reduceIte, add_nanos_eq_carryOverflow_iff, true_and]
    constructor
    · rintro ⟨_, ⟨-, rfl⟩, fills⟩
      exact fills
    · intro fills
      exact ⟨_, ⟨fills.lt, rfl⟩, fills⟩

theorem addFraction_eq_carryOverflow_iff {f : Fraction} :
    s.addFraction f factor = .error .carryOverflow ↔
      factor.2 = false ∧ f.numerator * factor.1 < UInt64.size ∧
        f.denominator ∣ f.numerator * factor.1 ∧
        s.Fills (f.numerator * factor.1 / f.denominator) := by
  unfold addFraction
  simp only [bind_eq_error, checked_ne_carryOverflow, false_or, checked_eq_ok_iff,
    ← Nat.dvd_iff_mod_eq_zero]
  constructor
  · rintro ⟨_, ⟨fits, rfl⟩, h⟩
    split at h
    case isFalse => cases h
    case isTrue even =>
      cases seconds : factor.2 with
      | true => simp [seconds, add_seconds_ne_carryOverflow] at h
      | false =>
        simp only [seconds, Bool.false_eq_true, ↓reduceIte, add_nanos_eq_carryOverflow_iff] at h
        exact ⟨rfl, fits, even, h⟩
  · rintro ⟨below, fits, even, fills⟩
    refine ⟨_, ⟨fits, rfl⟩, ?_⟩
    rw [if_pos even, if_neg (by simp [below])]
    exact add_nanos_eq_carryOverflow_iff.mpr fills

end Term

/-- A term whose nanoseconds fill a span: those of its whole number, or those of its fraction after
the whole number was added. -/
inductive Brims (s : Span) (count : Nat) (fraction : Option Fraction) (u : SpanUnit) : Prop
  | whole (small : u.whole.2 = false) (fills : s.Fills (count * u.whole.1))
  | part {t : Span} {f : Fraction} {factor : Nat × Bool}
      (added : s.addCount count u.whole = .ok t) (written : fraction = some f)
      (counts : u.fraction? = some factor) (small : factor.2 = false)
      (fits : f.numerator * factor.1 < UInt64.size)
      (even : f.denominator ∣ f.numerator * factor.1)
      (fills : t.Fills (f.numerator * factor.1 / f.denominator))

theorem addTerm_eq_carryOverflow_iff {s : Span} {count : Nat} {fraction : Option Fraction}
    {letters : List Char} :
    s.addTerm count fraction letters = .error .carryOverflow ↔
      ∃ u, SpanUnit.ofName? (String.ofList letters) = some u ∧ s.Brims count fraction u := by
  unfold addTerm
  cases SpanUnit.ofName? (String.ofList letters) with
  | none => simp
  | some u =>
    simp only [bind_eq_error, addCount_eq_carryOverflow_iff, Option.some.injEq, exists_eq_left']
    constructor
    · rintro (⟨small, fills⟩ | ⟨t, added, h⟩)
      · exact .whole small fills
      · split at h
        case h_1 => cases h
        case h_2 f factor counts =>
          obtain ⟨small, fits, even, fills⟩ := addFraction_eq_carryOverflow_iff.mp h
          exact .part added rfl counts small fits even fills
        case h_3 => cases h
    · intro brims
      cases brims with
      | whole small fills => exact .inl ⟨small, fills⟩
      | part added written counts small fits even fills =>
        refine .inr ⟨_, added, ?_⟩
        rw [written, counts]
        exact addFraction_eq_carryOverflow_iff.mpr ⟨small, fits, even, fills⟩

/-! ## Whole texts -/

/-- The characters that end a unit: it is followed by a blank or by the next number. -/
def EndsUnit (c : Char) : Prop := (Text.digit? c).isSome ∨ Text.isBlank c

/-- Of a text so much was read that the terms before come to `s` and another term is complete, with
this count, fraction and unit. -/
def ReadsTerm (text : List Char) (s : Span) (count : Nat) (fraction : Option Fraction)
    (letters : List Char) : Prop :=
  ∃ read rest, text = read ++ rest ∧ (∀ c ∈ rest.head?, EndsUnit c) ∧
    read.foldlM (fun p c => step p.1 p.2 c) (zero, .before false) =
      .ok (s, .unit count fraction letters.reverse)

/-- The texts with a term that fills the sum of those before it. -/
def BrimsOver (text : List Char) : Prop :=
  ∃ s count fraction letters u, ReadsTerm text s count fraction letters ∧
    SpanUnit.ofName? (String.ofList letters) = some u ∧ s.Brims count fraction u

/-- A character overflows the carry only where it ends a unit. -/
theorem step_eq_carryOverflow_iff {s : Span} {stage : Stage} {c : Char} :
    step s stage c = .error .carryOverflow ↔
      ∃ count fraction letters, stage = .unit count fraction letters ∧ EndsUnit c ∧
        s.addTerm count fraction letters.reverse = .error .carryOverflow := by
  unfold step EndsUnit
  cases stage with
  | before any =>
    cases Text.digit? c with
    | some d => simp
    | none =>
      dsimp only
      split_ifs <;> simp
  | number n =>
    cases Text.digit? c with
    | some d => simp [checked_ne_carryOverflow]
    | none =>
      dsimp only
      split_ifs <;> simp
  | fraction n f =>
    cases Text.digit? c with
    | some d => simp [bind_eq_error, checked_ne_carryOverflow]
    | none =>
      dsimp only
      split_ifs <;> simp
  | unit count fraction letters =>
    cases Text.digit? c with
    | some d => simp
    | none =>
      dsimp only
      split_ifs with blank letter <;> simp [blank]

theorem finish_eq_carryOverflow_iff {s : Span} {stage : Stage} :
    s.finish stage = .error .carryOverflow ↔
      ∃ count fraction letters, stage = .unit count fraction letters ∧
        s.addTerm count fraction letters.reverse = .error .carryOverflow := by
  unfold finish
  split <;> simp_all

theorem parseTerms_eq_carryOverflow_iff {text : List Char} :
    parseTerms text = .error .carryOverflow ↔ BrimsOver text := by
  unfold parseTerms
  rw [bind_eq_error, foldlM_eq_error]
  constructor
  · rintro (⟨read, c, rest, ⟨s, stage⟩, rfl, reached, failed⟩ | ⟨⟨s, stage⟩, reached, failed⟩)
    · obtain ⟨count, fraction, letters, rfl, ends, failed⟩ := step_eq_carryOverflow_iff.mp failed
      obtain ⟨u, named, brims⟩ := addTerm_eq_carryOverflow_iff.mp failed
      refine ⟨s, count, fraction, letters.reverse, u, ⟨read, c :: rest, rfl, ?_, ?_⟩, named, brims⟩
      · simpa using ends
      · rw [reached, List.reverse_reverse]
    · obtain ⟨count, fraction, letters, rfl, failed⟩ := finish_eq_carryOverflow_iff.mp failed
      obtain ⟨u, named, brims⟩ := addTerm_eq_carryOverflow_iff.mp failed
      refine ⟨s, count, fraction, letters.reverse, u, ⟨text, [], ?_, ?_, ?_⟩, named, brims⟩
      · simp
      · simp
      · rw [reached, List.reverse_reverse]
  · rintro ⟨s, count, fraction, letters, u, ⟨read, rest, rfl, ends, reached⟩, named, brims⟩
    have failed := addTerm_eq_carryOverflow_iff.mpr ⟨u, named, brims⟩
    rw [← letters.reverse_reverse] at failed
    cases rest with
    | nil =>
      refine .inr ⟨_, by simpa using reached, ?_⟩
      exact finish_eq_carryOverflow_iff.mpr ⟨_, _, _, rfl, failed⟩
    | cons c rest =>
      refine .inl ⟨read, c, rest, _, rfl, reached, ?_⟩
      exact step_eq_carryOverflow_iff.mpr ⟨_, _, _, rfl, ends c rfl, failed⟩

/-- A written span overflows the carry exactly if it brims over. -/
theorem parse_eq_carryOverflow_iff {text : List Char} :
    parse text = .error .carryOverflow ↔ BrimsOver text := by
  rw [← parseTerms_eq_carryOverflow_iff]
  unfold parse
  split
  case isTrue zero =>
    have malformed : parseTerms ['0'] = .error .malformed := rfl
    simp [zero, malformed]
  case isFalse => rfl

end PgMetrics.Span
