import PgMetrics.Decimal.Read
import PgMetrics.Toml.Quoted

/-!
# Numbers of TOML

A number is read from a whole word. Single underscores may stand between digits. Whole numbers are
in decimal, without a zero before other digits, or in one of three other bases; they fit 64 bits
in two's complement. A number with a fraction or an exponent must not be above all doubles.

## Main definitions

* `integer?`: the value of a whole number.
* `isReal`: whether a word is a number with a fraction or an exponent.
-/

namespace PgMetrics.Toml

/-- The digits of a run in which single underscores may stand between digits. -/
def grouped? (p : Char → Bool) : List Char → Option (List Char)
  | [] => none
  | [c] => if p c then some [c] else none
  | c :: '_' :: s => if p c then (grouped? p s).map (c :: ·) else none
  | c :: s => if p c then (grouped? p s).map (c :: ·) else none

/-- The digits of a decimal number; a zero stands alone. -/
def decimalDigits? (s : List Char) : Option (List Char) :=
  (grouped? Char.isDigit s).filter fun digits => digits.head? != some '0' || digits.length == 1

/-- The sign at the front, and what follows it. -/
def splitSign : List Char → List Char × List Char
  | '+' :: s => (['+'], s)
  | '-' :: s => (['-'], s)
  | s => ([], s)

/-- The value of digits in another base. -/
def based? (base : Nat) (s : List Char) : Option Int := do
  let digits ← grouped? (fun c => (Text.digitIn? base c).isSome) s
  return Int.ofNat (← Text.numberIn? base digits)

/-- The value of a whole number before its range is checked. -/
def wholeNumber? : List Char → Option Int
  | '0' :: 'x' :: s => based? 16 s
  | '0' :: 'o' :: s => based? 8 s
  | '0' :: 'b' :: s => based? 2 s
  | s =>
    let (sign, s) := splitSign s
    (decimalDigits? s).bind fun digits => Text.integer? (sign ++ digits)

/-- The least and the greatest whole number. -/
def integerRange : Int × Int := (Int64.minValue.toInt, Int64.maxValue.toInt)

/-- Whether a whole number fits 64 bits in two's complement. -/
def inRange (i : Int) : Bool := integerRange.1 ≤ i && i ≤ integerRange.2

/-- The value of a whole number. -/
def integer? (s : List Char) : Option Int := (wholeNumber? s).filter inRange

/-- The digits of a fraction with its point, if there is one. -/
def fraction? : List Char → Option (List Char)
  | [] => some []
  | '.' :: s => (grouped? Char.isDigit s).map ('.' :: ·)
  | _ => none

/-- The digits of an exponent with its letter and sign, if there is one. -/
def exponent? : List Char → Option (List Char)
  | [] => some []
  | _ :: s =>
    let (sign, s) := splitSign s
    (grouped? Char.isDigit s).map fun digits => 'e' :: (sign ++ digits)

/-- The plain numeral of a number with a fraction or an exponent. -/
def numeral? (s : List Char) : Option (List Char) := do
  let (sign, s) := splitSign s
  let isMark (c : Char) : Bool := c == 'e' || c == 'E'
  let (mantissa, exponent) := (s.takeWhile (!isMark ·), s.dropWhile (!isMark ·))
  let (whole, fraction) := (mantissa.takeWhile (· != '.'), mantissa.dropWhile (· != '.'))
  if fraction.isEmpty && exponent.isEmpty then none
  else return sign ++ (← decimalDigits? whole) ++ (← fraction? fraction) ++ (← exponent? exponent)

/-- Whether a word is a number with a fraction or an exponent. Infinity and NaN are such words. -/
def isReal (s : List Char) : Bool :=
  if (splitSign s).2 ∈ ["inf".toList, "nan".toList] then true
  else
    match (numeral? s).bind readFloat? with
    | some x => !(x == 1.0 / 0.0)
    | none => false

end PgMetrics.Toml
