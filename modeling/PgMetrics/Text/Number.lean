/-!
# Whole numbers in decimal

Numerals of ASCII digits, with the signs that each kind of number admits, and their range checks.
Bases other than ten have digits up to `f`, in either case.

## Main definitions

* `natural?`: a non-empty run of digits.
* `unsigned64?`, `integer64?`: numerals that fit 64 bits.
* `numberIn?`: a non-empty run of digits of another base.
* `codePoint?`: the character with a given number.
* `decimal`, `integer`: the printed forms.
-/

namespace PgMetrics.Text

/-- The value of an ASCII digit. -/
def digit? (c : Char) : Option Nat :=
  if '0' ≤ c ∧ c ≤ '9' then some (c.toNat - 48) else none

/-- The number that a run of digits continues from `n`. -/
def naturalFrom (n : Nat) : List Char → Option Nat
  | [] => some n
  | c :: s => (digit? c).bind fun d => naturalFrom (10 * n + d) s

/-- The value of a non-empty run of ASCII digits. -/
def natural? (s : List Char) : Option Nat :=
  if s.isEmpty then none else naturalFrom 0 s

/-- A numeral with an optional plus sign, below `bound`. -/
def unsigned? (bound : Nat) (s : List Char) : Option Nat :=
  let value :=
    match s with
    | '+' :: t => natural? t
    | t => natural? t
  value.filter (· < bound)

/-- A numeral with an optional plus sign that fits 64 bits. -/
def unsigned64? (s : List Char) : Option UInt64 :=
  (unsigned? UInt64.size s).map UInt64.ofNat

/-- A numeral with an optional sign. -/
def integer? : List Char → Option Int
  | '+' :: t => (natural? t).map Int.ofNat
  | '-' :: t => (natural? t).map fun n => -Int.ofNat n
  | t => (natural? t).map Int.ofNat

/-- A numeral with an optional sign that fits 64 bits in two's complement. -/
def integer64? (s : List Char) : Option Int64 :=
  let fits (i : Int) := Int64.minValue.toInt ≤ i && i ≤ Int64.maxValue.toInt
  ((integer? s).filter fits).map Int64.ofInt

/-- The value of a hexadecimal digit. -/
def hexDigit? (c : Char) : Option Nat :=
  if '0' ≤ c ∧ c ≤ '9' then some (c.toNat - 48)
  else if 'a' ≤ c ∧ c ≤ 'f' then some (c.toNat - 87)
  else if 'A' ≤ c ∧ c ≤ 'F' then some (c.toNat - 55)
  else none

/-- The value of a digit of a base up to sixteen. -/
def digitIn? (base : Nat) (c : Char) : Option Nat := (hexDigit? c).filter (· < base)

/-- The value of a non-empty run of digits of a base up to sixteen. -/
def numberIn? (base : Nat) (s : List Char) : Option Nat :=
  if s.isEmpty then none
  else s.foldlM (fun n c => (digitIn? base c).map fun d => base * n + d) 0

/-- The character with the given code point, if there is one. -/
def codePoint? (n : Nat) : Option Char := if n.isValidChar then some (Char.ofNat n) else none

/-- The decimal digits of a number. -/
def decimal (n : Nat) : List Char := Nat.toDigits 10 n

/-- The decimal form of an integer. -/
def integer : Int → List Char
  | .ofNat n => decimal n
  | .negSucc n => '-' :: decimal (n + 1)

/-- The decimal form of a number as a string. -/
def decimalText (n : Nat) : String := String.ofList (decimal n)

end PgMetrics.Text
