import Mathlib.Data.List.Basic
import PgMetrics.Text.Blank
import PgMetrics.Text.Number

/-!
# Numerals

A run of digits has the value that its digits give to the base ten, so a printed number reads back
as itself, however many zeros stand before it.

## Main definitions

* `IsNumeral` — a run of digits with an optional sign, and its value.
* `Padded` — a number as it is written, with zeros before it.

## Main results

* `natural?_eq_some_iff`, `integer64?_eq_some_iff` — which texts read as which numbers.
* `natural?_decimal`, `integer?_integer`, `numberIn?_toDigits` — printed numbers read back.
* `decimal_inj` — numbers are told by their texts.
* `Padded.natural?_text`, `Padded.unsigned64?_text` — a numeral reads as its number.
-/

namespace PgMetrics.Text

/-! ## Runs of digits -/

theorem isDigit_iff {c : Char} : c.isDigit = true ↔ 48 ≤ c.toNat ∧ c.toNat ≤ 57 := by
  simp only [Char.isDigit, Bool.and_eq_true, decide_eq_true_eq, UInt32.le_iff_toNat_le]
  exact Iff.rfl

theorem ne_of_isDigit {c d : Char} (h : c.isDigit = true) (other : d.isDigit = false) : c ≠ d := by
  rintro rfl
  simp [other] at h

theorem digit?_of_isDigit {c : Char} (h : c.isDigit = true) : digit? c = some (c.toNat - 48) :=
  if_pos (isDigit_iff.mp h)

theorem isBlank_of_isDigit {c : Char} (h : c.isDigit = true) : isBlank c = false := by
  have := isDigit_iff.mp h
  unfold isBlank
  grind

theorem naturalFrom_of_digits {s : List Char} (digits : ∀ c ∈ s, c.isDigit = true) (n : Nat) :
    naturalFrom n s = some (Nat.ofDigitChars 10 s n) := by
  induction s generalizing n with
  | nil => rfl
  | cons c rest ih =>
    obtain ⟨first, rest⟩ := List.forall_mem_cons.mp digits
    rw [naturalFrom, digit?_of_isDigit first, Option.bind_some, ih rest, Nat.ofDigitChars_cons]
    rfl

theorem natural?_of_digits {s : List Char} (digits : ∀ c ∈ s, c.isDigit = true) (ne : s ≠ []) :
    natural? s = some (Nat.ofDigitChars 10 s 0) := by
  simp [natural?, ne, naturalFrom_of_digits digits]

theorem isDigit_of_digit? {c : Char} {d : Nat} (h : digit? c = some d) : c.isDigit = true := by
  by_contra other
  have outside : ¬ ('0' ≤ c ∧ c ≤ '9') := fun range => other (isDigit_iff.mpr range)
  simp [digit?, outside] at h

theorem isDigit_of_naturalFrom {s : List Char} {n m : Nat} (h : naturalFrom n s = some m) :
    ∀ c ∈ s, c.isDigit = true := by
  induction s generalizing n with
  | nil => exact List.forall_mem_nil _
  | cons c rest ih =>
    obtain ⟨d, first, others⟩ := Option.bind_eq_some_iff.mp h
    exact List.forall_mem_cons.mpr ⟨isDigit_of_digit? first, ih others⟩

/-- What reads as a number is a run of digits, and its value is the one that the digits give. -/
theorem natural?_eq_some_iff {s : List Char} {n : Nat} :
    natural? s = some n ↔
      s ≠ [] ∧ (∀ c ∈ s, c.isDigit = true) ∧ n = Nat.ofDigitChars 10 s 0 := by
  constructor
  · intro read
    have ne : s ≠ [] := by
      rintro rfl
      cases read
    have digits : ∀ c ∈ s, c.isDigit = true := by
      rw [natural?, if_neg (by simpa using ne)] at read
      exact isDigit_of_naturalFrom read
    rw [natural?_of_digits digits ne] at read
    exact ⟨ne, digits, (Option.some.inj read).symm⟩
  · rintro ⟨ne, digits, rfl⟩
    exact natural?_of_digits digits ne

/-- A run of digits has no sign. -/
theorem unsigned?_of_digits {s : List Char} (digits : ∀ c ∈ s, c.isDigit = true) (bound : Nat) :
    unsigned? bound s = (natural? s).filter (· < bound) := by
  unfold unsigned?
  split
  · exact absurd (digits '+' List.mem_cons_self) (by decide)
  · rfl

theorem integer?_of_digits {s : List Char} (digits : ∀ c ∈ s, c.isDigit = true) :
    integer? s = (natural? s).map Int.ofNat := by
  unfold integer?
  split
  · exact absurd (digits '+' List.mem_cons_self) (by decide)
  · exact absurd (digits '-' List.mem_cons_self) (by decide)
  · rfl

/-! ## Numerals with a sign -/

/-- A numeral, which is a run of digits that may have a sign before it, and its value. -/
inductive IsNumeral : List Char → Int → Prop
  | plain {digits : List Char} (ne : digits ≠ []) (all : ∀ c ∈ digits, c.isDigit = true) :
      IsNumeral digits (Nat.ofDigitChars 10 digits 0)
  | plus {digits : List Char} (ne : digits ≠ []) (all : ∀ c ∈ digits, c.isDigit = true) :
      IsNumeral ('+' :: digits) (Nat.ofDigitChars 10 digits 0)
  | minus {digits : List Char} (ne : digits ≠ []) (all : ∀ c ∈ digits, c.isDigit = true) :
      IsNumeral ('-' :: digits) (-(Nat.ofDigitChars 10 digits 0))

theorem integer?_eq_some_iff {s : List Char} {i : Int} : integer? s = some i ↔ IsNumeral s i := by
  constructor
  · intro read
    unfold integer? at read
    split at read
    all_goals
      obtain ⟨n, number, rfl⟩ := Option.map_eq_some_iff.mp read
      obtain ⟨ne, digits, rfl⟩ := natural?_eq_some_iff.mp number
    · exact .plus ne digits
    · exact .minus ne digits
    · exact .plain ne digits
  · intro numeral
    cases numeral with
    | plain ne digits =>
      rw [integer?_of_digits digits, natural?_of_digits digits ne]
      rfl
    | plus ne digits | minus ne digits =>
      rw [integer?, natural?_of_digits digits ne]
      rfl

/-- A numeral that does not fit 64 bits is refused, and every other one reads as its value. -/
theorem integer64?_eq_some_iff {s : List Char} {i : Int64} :
    integer64? s = some i ↔ IsNumeral s i.toInt := by
  rw [← integer?_eq_some_iff]
  constructor
  · intro read
    unfold integer64? at read
    obtain ⟨j, kept, rfl⟩ := Option.map_eq_some_iff.mp read
    obtain ⟨read, fits⟩ := Option.filter_eq_some_iff.mp kept
    simp only [Bool.and_eq_true, decide_eq_true_eq] at fits
    rw [read, Int64.toInt_ofInt_of_le fits.1 (Int.lt_of_le_of_lt fits.2 (by decide))]
  · intro read
    have fits : (Int64.minValue.toInt ≤ i.toInt && i.toInt ≤ Int64.maxValue.toInt) = true := by
      simp only [Bool.and_eq_true, decide_eq_true_eq]
      exact ⟨i.minValue_le_toInt, i.toInt_le⟩
    rw [integer64?, read, Option.filter_some, if_pos fits, Option.map_some, Int64.ofInt_toInt]

/-! ## Printed numbers -/

theorem decimal_ne_nil (n : Nat) : decimal n ≠ [] := Nat.toDigits_ne_nil

theorem isDigit_of_mem_decimal {n : Nat} {c : Char} (h : c ∈ decimal n) : c.isDigit = true :=
  Nat.isDigit_of_mem_toDigits (by decide) (by decide) h

@[simp]
theorem natural?_decimal (n : Nat) : natural? (decimal n) = some n := by
  rw [natural?_of_digits (fun _ => isDigit_of_mem_decimal) (decimal_ne_nil n)]
  exact congrArg some Nat.ofDigitChars_ten_toDigits

/-- Numbers are told by their texts. -/
theorem decimal_inj {m n : Nat} : decimal m = decimal n ↔ m = n := by
  refine ⟨fun same => ?_, congrArg decimal⟩
  have read := congrArg natural? same
  rw [natural?_decimal, natural?_decimal] at read
  exact Option.some.inj read

theorem notMem_decimal {c : Char} (other : c.isDigit = false) (n : Nat) : c ∉ decimal n :=
  fun mem => ne_of_isDigit (isDigit_of_mem_decimal mem) other rfl

/-- No zero stands before the digits of a number above zero. -/
theorem head?_decimal {n : Nat} (pos : 0 < n) : (decimal n).head? ≠ some '0' := by
  induction n using Nat.strongRecOn with
  | ind n ih =>
    rw [decimal, Nat.toDigits_eq_if (by decide)]
    split
    · have : ∀ m < 10, 0 < m → m.digitChar ≠ '0' := by decide
      simpa using this n ‹_› pos
    · obtain ⟨c, s, h⟩ := List.exists_cons_of_ne_nil (decimal_ne_nil (n / 10))
      have shorter := ih (n / 10) (by omega) (by omega)
      rw [decimal] at h shorter
      rw [h] at shorter ⊢
      exact shorter

/-- A whole number reads back as itself. -/
theorem integer?_integer (i : Int) : integer? (integer i) = some i := by
  cases i with
  | negSucc n =>
    rw [integer, integer?, natural?_decimal]
    rfl
  | ofNat n =>
    rw [integer, integer?_of_digits fun _ => isDigit_of_mem_decimal, natural?_decimal]
    rfl

theorem isNumeral_integer (i : Int) : IsNumeral (integer i) i :=
  integer?_eq_some_iff.mp (integer?_integer i)

/-- A printed number has digits, and a minus sign if it is below zero. -/
theorem mem_integer {i : Int} {c : Char} (h : c ∈ integer i) : c = '-' ∨ c.isDigit = true := by
  cases i with
  | ofNat n => exact .inr (isDigit_of_mem_decimal h)
  | negSucc n => exact (List.mem_cons.mp h).imp_right isDigit_of_mem_decimal

theorem integer_ne_nil (i : Int) : integer i ≠ [] := by
  cases i with
  | ofNat n => exact decimal_ne_nil n
  | negSucc n => exact List.cons_ne_nil _ _

/-- A number in decimal, with zeros before it. -/
structure Padded where
  zeros : Nat
  number : Nat
  deriving DecidableEq, Repr

namespace Padded

def text (n : Padded) : List Char := List.replicate n.zeros '0' ++ decimal n.number

/-- The numeral that a number is printed as. -/
def plain (n : Nat) : Padded := ⟨0, n⟩

theorem text_ne_nil (n : Padded) : n.text ≠ [] := by
  simp [text, decimal_ne_nil]

theorem isDigit_of_mem_text {n : Padded} {c : Char} (h : c ∈ n.text) : c.isDigit = true := by
  rcases List.mem_append.mp h with h | h
  · obtain rfl := List.eq_of_mem_replicate h
    rfl
  · exact isDigit_of_mem_decimal h

@[simp]
theorem natural?_text (n : Padded) : natural? n.text = some n.number := by
  rw [natural?_of_digits (fun _ => isDigit_of_mem_text) n.text_ne_nil, text,
    Nat.ofDigitChars_append, Nat.ofDigitChars_replicate_zero]
  exact congrArg some Nat.ofDigitChars_ten_toDigits

/-- A numeral that does not fit 64 bits is refused, not cut. -/
theorem unsigned64?_text (n : Padded) :
    unsigned64? n.text = if n.number < UInt64.size then some (.ofNat n.number) else none := by
  rw [unsigned64?, unsigned?_of_digits (fun _ => isDigit_of_mem_text), natural?_text]
  by_cases fits : n.number < UInt64.size <;> simp [Option.filter, fits]

end Padded

/-! ## Digits of other bases -/

theorem hexDigit?_digitChar {d : Nat} (h : d < 16) : hexDigit? d.digitChar = some d := by
  have all : ∀ d < 16, hexDigit? d.digitChar = some d := by decide
  exact all d h

/-- The digits of a base up to sixteen stand for numbers below it. -/
theorem digit_of_mem_toDigits {base n : Nat} {c : Char} (more : 1 < base)
    (h : c ∈ Nat.toDigits base n) : ∃ d < base, c = d.digitChar := by
  induction n using Nat.strongRecOn with
  | ind n ih =>
    rw [Nat.toDigits_eq_if more] at h
    split at h
    case isTrue small => exact ⟨n, small, List.mem_singleton.mp h⟩
    case isFalse large =>
      rcases List.mem_append.mp h with h | h
      · exact ih (n / base) (Nat.div_lt_self (by omega) more) h
      · exact ⟨n % base, Nat.mod_lt n (by omega), List.mem_singleton.mp h⟩

theorem hexDigit?_of_mem_toDigits {n : Nat} {c : Char} (h : c ∈ Nat.toDigits 16 n) :
    (hexDigit? c).isSome = true := by
  obtain ⟨d, small, rfl⟩ := digit_of_mem_toDigits (by decide) h
  rw [hexDigit?_digitChar small]
  rfl

/-- A number that is written to a base up to sixteen reads back as itself. -/
theorem numberIn?_toDigits {base : Nat} (more : 1 < base) (known : base ≤ 16) (n : Nat) :
    numberIn? base (Nat.toDigits base n) = some n := by
  have digit {d : Nat} (small : d < base) : digitIn? base d.digitChar = some d := by
    rw [digitIn?, hexDigit?_digitChar (Nat.lt_of_lt_of_le small known)]
    simp [Option.filter, small]
  rw [numberIn?, if_neg (by simp [Nat.toDigits_ne_nil])]
  induction n using Nat.strongRecOn with
  | ind n ih =>
    rw [Nat.toDigits_eq_if more]
    split
    case isTrue small => simp [digit small]
    case isFalse large =>
      have front := ih (n / base) (Nat.div_lt_self (by omega) more)
      rw [List.foldlM_append, front, Option.bind_eq_bind, Option.bind_some, List.foldlM_cons,
        digit (Nat.mod_lt n (by omega))]
      simp [Nat.div_add_mod]

end PgMetrics.Text
