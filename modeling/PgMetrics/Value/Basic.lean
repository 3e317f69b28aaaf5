import PgMetrics.Decimal.Read
import PgMetrics.Decimal.Shortest
import PgMetrics.Text.Utf8
import PgMetrics.Time.Instant

/-!
# Values of a result set

A value is what one cell of a result set holds. It can be read as a number, as a count, as a label,
as text or as an array; a reading that makes no sense for the value is absent.

## Main definitions

* `Value`, `ResultSet`.
* `Value.number?`, `Value.count?`, `Value.label`, `Value.text?`, `Value.numbers?`,
  `Value.integers?`: the readings.
* `ArrayLiteral`: arrays written as `{1,2,3}`.
-/

namespace PgMetrics

/-- One cell. -/
inductive Value where
  | null
  | bool (b : Bool)
  | int (i : Int64)
  | float (x : Float)
  | text (s : String)
  | bytes (octets : List UInt8)
  | timestamp (t : Instant)
  | floats (xs : List Float)
  | ints (xs : List Int64)
  /-- A value of a type that is not decoded. -/
  | other (typeName : String)
  deriving Inhabited

/-- Column names and rows. -/
structure ResultSet where
  columns : List String
  rows : List (List Value)
  deriving Inhabited

namespace ResultSet

/-- The first column of the given name. -/
def columnIndex? (r : ResultSet) (name : String) : Option Nat :=
  r.columns.findIdx? (· == name)

end ResultSet

namespace ArrayLiteral

/-- The elements between braces, joined by commas. -/
def render (elements : List (List Char)) : List Char :=
  '\x7b' :: ((elements.intersperse [',']).flatten ++ ['\x7d'])

/-- The text between the outer braces, once blanks around them are cut. -/
def inner? (s : List Char) : Option (List Char) :=
  match Text.dropStart? ['\x7b'] (Text.trim s) with
  | none => none
  | some t =>
    match t.getLast? with
    | some c => if c = '\x7d' then some t.dropLast else none
    | none => none

/-- Reads every element by `read?`; one that cannot be read spoils the array. -/
def parse? {α : Type} (read? : List Char → Option α) (s : List Char) : Option (List α) :=
  match inner? s with
  | none => none
  | some body =>
    if (Text.trim body).isEmpty then some []
    else (Text.pieces (· == ',') body).mapM fun p => read? (Text.trim p)

end ArrayLiteral

namespace Value

/-- The text of octets that form well-formed UTF-8. -/
def octetText? (octets : List UInt8) : Option (List Char) := Text.Utf8.decode? octets

/-- The numeric reading. Nothing reads as NaN, an instant as its seconds. -/
def number? : Value → Option Float
  | .null => some (0.0 / 0.0)
  | .bool b => some (if b then 1.0 else 0.0)
  | .int i => some i.toFloat
  | .float x => some x
  | .timestamp t => some (Int64.ofInt t.seconds).toFloat
  | .text s => readFloat? (Text.trim s.toList)
  | .bytes o => (octetText? o).bind fun s => readFloat? (Text.trim s)
  | .floats _ => none
  | .ints _ => none
  | .other _ => none

/-- The reading as a count. Nothing reads as zero; a double is cut to a whole number. -/
def count? : Value → Option UInt64
  | .null => some 0
  | .int i => if 0 ≤ i then some i.toUInt64 else none
  | .float x => if 0.0 ≤ x ∧ (Binary64.ofFloat x).isFinite then some x.toUInt64 else none
  | .text s => Text.unsigned64? (Text.trim s.toList)
  | .bytes o => (octetText? o).bind fun s => Text.unsigned64? (Text.trim s)
  | _ => none

/-- The text that stands for the value in a label. -/
def labelChars : Value → List Char
  | .null => []
  | .bool b => (if b then "true" else "false").toList
  | .int i => Text.integer i.toInt
  | .float x => printFloat x
  | .text s => s.toList
  | .bytes o => Text.Utf8.decodeLossy o
  | .timestamp t => t.label
  | .floats xs => ArrayLiteral.render (xs.map printFloat)
  | .ints xs => ArrayLiteral.render (xs.map fun i => Text.integer i.toInt)
  | .other _ => []

def label (v : Value) : String := String.ofList v.labelChars

/-- The text of a value that is text. -/
def text? : Value → Option String
  | .text s => some s
  | .bytes o => (octetText? o).map String.ofList
  | _ => none

def isNull : Value → Bool
  | .null => true
  | _ => false

/-- The reading as an array of doubles. -/
def numbers? : Value → Option (List Float)
  | .floats xs => some xs
  | .ints xs => some (xs.map Int64.toFloat)
  | .text s => ArrayLiteral.parse? readFloat? s.toList
  | _ => none

/-- The reading as an array of integers. -/
def integers? : Value → Option (List Int64)
  | .ints xs => some xs
  | .text s => ArrayLiteral.parse? Text.integer64? s.toList
  | _ => none

/-- The value as it is shown in error texts. -/
def shown : Value → String
  | .null => "NULL"
  | .other name => "<" ++ name ++ ">"
  | v => v.label

end Value

end PgMetrics
