import PgMetrics.Proofs.Text.Utf8
import PgMetrics.Proofs.Value.ArrayLiteral

/-!
# Integers as text

An integer, and an array of integers, can come as such or as text. Both read alike, and no other
text reads as an array.

## Main results

* `Value.count?_text_label`, `Value.count?_bytes_label` — an integer as text and as octets.
* `Value.integers_read_alike` — integers and arrays of them.
-/

namespace PgMetrics

/-- An integer that is not below zero keeps its value without a sign. -/
theorem toNat_toUInt64 {c : Int64} (h : 0 ≤ c) : (c.toUInt64.toNat : Int) = c.toInt := by
  rw [Int64.toNat_toUInt64_of_le h]
  exact Int.toNat_of_nonneg (Int64.le_iff_toInt_le.mp h)

namespace Text

theorem unsigned64?_decimal {n : Nat} (fits : n < UInt64.size) :
    unsigned64? (decimal n) = some (.ofNat n) := by
  exact (Padded.plain n).unsigned64?_text.trans (if_pos fits)

/-- Nothing below zero reads as a number without a sign. -/
theorem unsigned64?_minus (t : List Char) : unsigned64? ('-' :: t) = none := by
  simp [unsigned64?, unsigned?, natural?, naturalFrom, digit?]

theorem toNat_lt_of_mem_integer {i : Int} {c : Char} (mem : c ∈ integer i) : c.toNat < 128 := by
  rcases mem_integer mem with rfl | digit
  · decide
  · have range := isDigit_iff.mp digit
    omega

end Text

namespace Value

/-- The numeral of an integer reads as the same count as the integer. -/
theorem unsigned64?_integer (n : Int64) :
    Text.unsigned64? (Text.integer n.toInt) = (Value.int n).count? := by
  rw [count?]
  by_cases positive : 0 ≤ n
  · have printed : Text.integer n.toInt = Text.decimal n.toUInt64.toNat := by
      rw [← toNat_toUInt64 positive]
      rfl
    rw [if_pos positive, printed, Text.unsigned64?_decimal n.toUInt64.toNat_lt, UInt64.ofNat_toNat]
  · have below : n.toInt < 0 := Int.not_le.mp fun sign => positive (Int64.le_iff_toInt_le.mpr sign)
    obtain ⟨k, whole⟩ := Int.eq_negSucc_of_lt_zero below
    have printed : Text.integer n.toInt = '-' :: Text.decimal (k + 1) := whole ▸ rfl
    rw [if_neg positive, printed, Text.unsigned64?_minus]

section Written

variable (n : Int64)

theorem toList_label_int : (Value.int n).label.toList = Text.integer n.toInt := String.toList_ofList

theorem trim_integer (i : Int) : Text.trim (Text.integer i) = Text.integer i :=
  Text.trim_of_none (ArrayLiteral.isElement_of_isNumeral (Text.isNumeral_integer i)).noBlank

theorem count?_text_label : (Value.text (Value.int n).label).count? = (Value.int n).count? := by
  rw [← unsigned64?_integer, count?, toList_label_int, trim_integer]

theorem count?_bytes_label :
    (Value.bytes (Text.Utf8.encode (Value.int n).label)).count? = (Value.int n).count? := by
  have octets : octetText? (Text.Utf8.encode (Value.int n).label) =
      some (Text.integer n.toInt) := by
    rw [← toList_label_int]
    refine Text.Utf8.decode?_encode_of_ascii fun c mem => ?_
    rw [toList_label_int] at mem
    exact Text.toNat_lt_of_mem_integer mem
  rw [← unsigned64?_integer, count?, octets, Option.bind_some, trim_integer]

end Written

/-- The text of an array of integers reads as the array, also with blanks around the braces and
around every integer. A text reads as an array exactly if braces, with blanks around them, hold
blanks only, or numerals of 64-bit integers that are joined by commas and have blanks around them;
the array has the values of all of them in their order. The text of an integer, as such or in
octets, reads as the same count as the integer. -/
theorem integers_read_alike :
    (∀ array : List Int64, (Value.text (Value.ints array).label).integers? = some array) ∧
    (∀ (array : List Int64) (parts : List (List Char)) (s : String),
      List.Forall₂ (fun part i => Text.Spaced (Text.integer i.toInt) part) parts array →
        Text.Spaced (ArrayLiteral.render parts) s.toList →
          (Value.text s).integers? = some array) ∧
    (∀ (s : String) (array : List Int64), (Value.text s).integers? = some array ↔
      ArrayLiteral.Written ArrayLiteral.IsInteger s.toList array) ∧
    ∀ n : Int64, (Value.text (Value.int n).label).count? = (Value.int n).count? ∧
      (Value.bytes (Text.Utf8.encode (Value.int n).label)).count? = (Value.int n).count? :=
  ⟨integers?_text_label, fun _ _ _ => integers?_of_spaced, fun _ _ => integers?_text_iff,
    fun n => ⟨count?_text_label n, count?_bytes_label n⟩⟩

namespace Extremes

/-- The ends of the range, the lower one with blanks around it. -/
def text : String := " \x7b\t-9223372036854775808 ,9223372036854775807\x7d\n"

theorem integers?_of_extremes :
    (Value.text text).integers? = some [Int64.minValue, Int64.maxValue] := by
  obtain ⟨-, spaced, -⟩ := integers_read_alike
  have blank {c : Char} (h : Text.isBlank c = true) : ∀ d ∈ [c], Text.isBlank d = true :=
    List.forall_mem_singleton.mpr h
  have least : Text.Spaced (Text.integer Int64.minValue.toInt) "\t-9223372036854775808 ".toList :=
    ⟨['\t'], [' '], blank rfl, blank rfl, by decide⟩
  have greatest : Text.Spaced (Text.integer Int64.maxValue.toInt) "9223372036854775807".toList :=
    .refl _
  exact spaced _ _ text (.cons least (.cons greatest .nil))
    ⟨[' '], ['\n'], blank rfl, blank rfl, by decide⟩

end Extremes

end Value

end PgMetrics
