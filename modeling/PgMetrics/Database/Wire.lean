import PgMetrics.Fault.Scrape
import PgMetrics.Net.Address
import PgMetrics.Value.Basic

/-!
# Cells in binary form

A server sends each cell as nothing or as octets whose meaning is that of the column's type. Numbers
have their highest octet first. A type that is not known here is not decoded, whatever it sends.

## Main definitions

* `Wire.unsigned`, `Wire.signed`: the numbers in octets.
* `Wire.decimal?`, `Wire.instant?`, `Wire.elements?`: decimals, points in time and arrays.
* `Wire.decode`: the value of a cell.
-/

namespace PgMetrics.Wire

/-- A cell as it is sent. -/
abbrev Cell := Option (List UInt8)

/-- The name and the type of a column. -/
structure Column where
  name : String
  typeName : String
  deriving DecidableEq, Repr

/-! ## Numbers -/

/-- The number in octets, the highest first. -/
def unsigned (octets : List UInt8) : Nat := octets.foldl (fun n o => 256 * n + o.toNat) 0

/-- The number in octets in two's complement. -/
def signed (octets : List UInt8) : Int :=
  (unsigned octets : Int).bmod (Nat.pow 256 octets.length)

/-- The first octets and the others, if there are enough. -/
def split? (n : Nat) (octets : List UInt8) : Option (List UInt8 × List UInt8) :=
  if n ≤ octets.length then some (octets.take n, octets.drop n) else none

def fixed? (n : Nat) (octets : List UInt8) : Option (List UInt8) :=
  if octets.length = n then some octets else none

/-- A signed number in a fixed number of octets. -/
def integer? (n : Nat) (octets : List UInt8) : Option Int64 :=
  (fixed? n octets).map fun o => Int64.ofInt (signed o)

def double? (octets : List UInt8) : Option Float :=
  (fixed? 8 octets).map fun o => Float.ofBits (UInt64.ofNat (unsigned o))

def single? (octets : List UInt8) : Option Float :=
  (fixed? 4 octets).map fun o => (Float32.ofBits (UInt32.ofNat (unsigned o))).toFloat

/-! ## Decimals -/

/-- The signs of a decimal that is a number. -/
def sign? (n : Nat) : Option Bool :=
  if n = 0 then some false else if n = 0x4000 then some true else none

/-- The number that digits of base ten thousand form. -/
def bigDigits? : (count : Nat) → Nat → List UInt8 → Option Nat
  | 0, n, [] => some n
  | 0, _, _ :: _ => none
  | count + 1, n, octets => do
    let (digit, octets) ← split? 2 octets
    bigDigits? count (10000 * n + unsigned digit) octets

/-- The double nearest to a decimal: digits of base ten thousand, the first of which counts
ten thousand to the power of the weight. -/
def decimal? (octets : List UInt8) : Option Float := do
  let (count, octets) ← split? 2 octets
  let (weight, octets) ← split? 2 octets
  let (sign, octets) ← split? 2 octets
  let (_, octets) ← split? 2 octets
  let negative ← sign? (unsigned sign)
  let digits ← bigDigits? (unsigned count) 0 octets
  let exponent := 4 * (signed weight - (unsigned count : Int) + 1)
  let size := (Numeral.mk digits exponent).toFloat
  return if negative && digits != 0 then -size else size

/-! ## Points in time -/

/-- The start of 2000 in seconds since the start of 1970. -/
def epoch : Int := 946684800

/-- The point in time that lies some microseconds after the start of 2000. -/
def instant? (octets : List UInt8) : Option Instant :=
  (fixed? 8 octets).map fun o =>
    let micros := signed o
    ⟨epoch + micros / 1000000, (micros % 1000000).toNat * 1000, by omega⟩

/-! ## Arrays -/

/-- The elements of an array, each with its length before it. An element that holds nothing has a
negative length and cannot be read. -/
def elementsFrom? {α : Type} (read? : List UInt8 → Option α) :
    (count : Nat) → List UInt8 → Option (List α)
  | 0, _ => some []
  | count + 1, octets => do
    let (length, octets) ← split? 4 octets
    if signed length < 0 then none
    else
      let (element, octets) ← split? (unsigned length) octets
      return (← read? element) :: (← elementsFrom? read? count octets)

/-- The elements of an array of at most one dimension. -/
def elements? {α : Type} (read? : List UInt8 → Option α) (octets : List UInt8) :
    Option (List α) := do
  let (dimensions, octets) ← split? 4 octets
  let (_, octets) ← split? 8 octets
  match unsigned dimensions with
  | 0 => return []
  | 1 =>
    let (count, octets) ← split? 4 octets
    let (_, octets) ← split? 4 octets
    if signed count < 0 then none else elementsFrom? read? (unsigned count) octets
  | _ => none

/-! ## Cells -/

def text? (octets : List UInt8) : Option String := (Text.Utf8.decode? octets).map String.ofList

/-- The message for a network address that is malformed. -/
def malformedAddress (typeName : String) : String := "malformed " ++ typeName ++ " value"

/-- The reading of the octets of a type, with the message for octets that are malformed; nothing for
a type that is not known. -/
def reading? (typeName : String) : Option ((List UInt8 → Option Value) × String) :=
  let plain (read : List UInt8 → Option Value) := some (read, "malformed octets")
  match typeName with
  | "BOOL" => plain fun o => (fixed? 1 o).map fun o => .bool (unsigned o != 0)
  | "INT2" => plain fun o => (integer? 2 o).map .int
  | "INT4" => plain fun o => (integer? 4 o).map .int
  | "INT8" => plain fun o => (integer? 8 o).map .int
  | "OID" => plain fun o => (fixed? 4 o).map fun o => .int (Int64.ofNat (unsigned o))
  | "FLOAT4" => plain fun o => (single? o).map .float
  | "FLOAT8" => plain fun o => (double? o).map .float
  | "NUMERIC" => plain fun o => (decimal? o).map .float
  | "TEXT" | "VARCHAR" | "NAME" | "BPCHAR" | "CHAR" => plain fun o => (text? o).map .text
  | "BYTEA" => plain fun o => some (.bytes o)
  | "TIMESTAMP" | "TIMESTAMPTZ" => plain fun o => (instant? o).map .timestamp
  | "FLOAT8[]" => plain fun o => (elements? double? o).map .floats
  | "FLOAT4[]" => plain fun o => (elements? single? o).map .floats
  | "INT8[]" => plain fun o => (elements? (integer? 8) o).map .ints
  | "INT4[]" => plain fun o => (elements? (integer? 4) o).map .ints
  | "INET" | "CIDR" =>
    some (fun o => (Inet.text? o (typeName == "CIDR")).map .text, malformedAddress typeName)
  | _ => none

def decode (c : Column) (cell : Cell) : Except DbError Value :=
  match reading? c.typeName with
  | none => .ok (.other c.typeName)
  | some (read, message) =>
    match cell with
    | none => .ok .null
    | some octets =>
      match read octets with
      | some v => .ok v
      | none => .error (.decode c.name message)

def decodeRow (columns : List Column) (row : List Cell) : Except DbError (List Value) :=
  (columns.zip row).mapM fun (c, cell) => decode c cell

end PgMetrics.Wire
