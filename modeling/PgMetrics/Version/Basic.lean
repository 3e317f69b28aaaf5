import PgMetrics.Text.Blank
import PgMetrics.Text.Number

/-!
# Server versions

A version has three 64-bit parts, ordered from the first to the last.

## Main definitions

* `Version.parse?`: a lenient reader; missing parts are zero and what follows the numbers is
  ignored.
* `Version.render`: the full form with three parts.
-/

namespace PgMetrics

/-- A version `major.minor.patch`. -/
structure Version where
  major : UInt64
  minor : UInt64
  patch : UInt64
  deriving DecidableEq, Repr, Inhabited

namespace Version

/-- Versions are ordered by their first part that differs. -/
instance : Ord Version where
  compare a b :=
    (compare a.major b.major).then ((compare a.minor b.minor).then (compare a.patch b.patch))

/-- The version made of three numbers, if each fits 64 bits. -/
def ofNats? (major minor patch : Nat) : Option Version :=
  if major < UInt64.size ∧ minor < UInt64.size ∧ patch < UInt64.size then
    some ⟨UInt64.ofNat major, UInt64.ofNat minor, UInt64.ofNat patch⟩
  else none

/-- The three parts in decimal, joined by points. -/
def render (v : Version) : List Char :=
  Text.decimal v.major.toNat ++ '.' :: (Text.decimal v.minor.toNat ++
    '.' :: Text.decimal v.patch.toNat)

instance : ToString Version := ⟨fun v => String.ofList v.render⟩

/-- Whether `c` may stand in the numeric part of a version. -/
def isNumeric (c : Char) : Bool := c.isDigit || c == '.'

/-- The digits and points at the front of a version, after blanks and one letter v, without the
points at their end. -/
def numericPart (s : List Char) : List Char :=
  let s := Text.trim s
  let s := (Text.dropStart? ['v'] s).getD s
  Text.trimEndBy (· == '.') (s.takeWhile isNumeric)

/-- The version made of the first three pieces; pieces that are missing count as zero. -/
def ofPieces? : List (List Char) → Option Version
  | [a] => do return ⟨← Text.unsigned64? a, 0, 0⟩
  | [a, b] => do return ⟨← Text.unsigned64? a, ← Text.unsigned64? b, 0⟩
  | a :: b :: c :: _ => do
    return ⟨← Text.unsigned64? a, ← Text.unsigned64? b, ← Text.unsigned64? c⟩
  | [] => none

/-- Reads a version leniently: short forms, a leading v, and any suffix after the numbers. -/
def parse? (s : List Char) : Option Version :=
  let part := numericPart s
  if part.isEmpty then none else ofPieces? (Text.pieces (· == '.') part)

end Version

end PgMetrics
