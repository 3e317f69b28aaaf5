import PgMetrics.Text.Blank
import PgMetrics.Text.Number

/-!
# Reading a double

A numeral has an optional sign, digits with at most one point and at least one digit, and an
optional exponent; the words for infinity and NaN are read in any case. The result is the double
nearest to the exact value.

## Main definitions

* `Numeral`, `Numeral.parse?`: the parts of a numeral.
* `readFloat`: the value of a text, or what is wrong with it.
-/

namespace PgMetrics

/-- Why a text is no number. -/
inductive NumeralError where
  | empty
  | invalid
  deriving DecidableEq, Repr

def NumeralError.message : NumeralError → String
  | .empty => "cannot parse float from empty string"
  | .invalid => "invalid float literal"

/-- An unsigned decimal `digits · 10 ^ exponent`. -/
structure Numeral where
  digits : Nat
  exponent : Int

namespace Numeral

/-- The digits at the front and what follows them. -/
def spanDigits (s : List Char) : List Char × List Char :=
  (s.takeWhile Char.isDigit, s.dropWhile Char.isDigit)

/-- The exponent part, which ends the numeral. -/
def exponent? : List Char → Option Int
  | [] => some 0
  | c :: s => if c = 'e' ∨ c = 'E' then Text.integer? s else none

/-- The parts of a numeral that has been stripped of its sign. -/
def parse? (s : List Char) : Option Numeral :=
  let (whole, rest) := spanDigits s
  let (fraction, rest) :=
    match rest with
    | '.' :: t => spanDigits t
    | t => ([], t)
  if whole.isEmpty && fraction.isEmpty then none
  else do
    let digits ← Text.natural? (whole ++ fraction)
    let e ← exponent? rest
    return ⟨digits, e - Int.ofNat fraction.length⟩

/-- The nearest double. Values outside the range of the exponent are settled by their size alone. -/
def toFloat (n : Numeral) : Float :=
  let size := Int.ofNat (Text.decimal n.digits).length + n.exponent
  if n.digits = 0 then 0.0
  else if 400 < size then 1.0 / 0.0
  else if size < -400 then 0.0
  else Float.ofScientific n.digits (decide (n.exponent < 0)) n.exponent.natAbs

end Numeral

/-- The value of a text without sign. -/
def readMagnitude? (s : List Char) : Option Float :=
  let word := String.ofList (s.map Text.lowerAscii)
  if word = "inf" ∨ word = "infinity" then some (1.0 / 0.0)
  else if word = "nan" then some (0.0 / 0.0)
  else (Numeral.parse? s).map Numeral.toFloat

def readFloat (s : List Char) : Except NumeralError Float :=
  match s with
  | [] => .error .empty
  | c :: t =>
    let value :=
      if c = '-' then (readMagnitude? t).map fun x => -x
      else if c = '+' then readMagnitude? t
      else readMagnitude? s
    match value with
    | some x => .ok x
    | none => .error .invalid

/-- The value of a text, if it is a number. -/
def readFloat? (s : List Char) : Option Float := (readFloat s).toOption

end PgMetrics
