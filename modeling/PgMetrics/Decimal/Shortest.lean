import PgMetrics.Decimal.Binary64
import PgMetrics.Text.Blank
import PgMetrics.Text.Number

/-!
# The shortest decimal that reads back

The reals that round to a double form an interval around it, closed exactly when the fraction is
even. On the grid of decimals with `n` digits only the two neighbours of the double can be its
nearest point, so the smallest `n` for which one of them lies in the interval gives the shortest
decimal that reads back as the same double.

## Main definitions

* `Shortest.Interval`: the interval of a double, in quarters of its unit.
* `Shortest.digits`: the shortest decimal, as a whole number and a power of ten.
* `printFloat`: the decimal written out in full, without an exponent.
-/

namespace PgMetrics

namespace Shortest

/-- The reals that round to a double. Its value and the two ends are numerators over one
denominator. -/
structure Interval where
  low : Nat
  value : Nat
  high : Nat
  denominator : Nat
  closed : Bool

/-- The interval of `m · 2 ^ q`. Below a power of two the next double is half as far away. -/
def Interval.of (m : Nat) (q : Int) : Interval :=
  let scale := Nat.pow 2 q.toNat
  let narrow := m = Binary64.leadingBit ∧ -1074 < q
  { low := (if narrow then 4 * m - 1 else 4 * m - 2) * scale
    value := 4 * m * scale
    high := (4 * m + 2) * scale
    denominator := 4 * Nat.pow 2 (-q).toNat
    closed := m % 2 = 0 }

/-- Whether `n · 10 ^ e` lies in the interval. -/
def Interval.holds (i : Interval) (n : Nat) (e : Int) : Bool :=
  let x := n * Nat.pow 10 e.toNat * i.denominator
  let unit := Nat.pow 10 (-e).toNat
  if i.closed then i.low * unit ≤ x && x ≤ i.high * unit
  else i.low * unit < x && x < i.high * unit

/-- The power of ten above a positive value: `10 ^ (k - 1) ≤ value < 10 ^ k`. -/
def Interval.magnitude (i : Interval) : Int :=
  if i.denominator ≤ i.value then (Text.decimal (i.value / i.denominator)).length
  else
    let w := (i.denominator + i.value - 1) / i.value
    1 - Int.ofNat (Text.decimal (w - 1)).length

/-- The nearest decimal with `n` digits that lies in the interval; halfway the greater one. -/
def Interval.onGrid? (i : Interval) (n : Nat) : Option (Nat × Int) :=
  let e := i.magnitude - Int.ofNat n
  let below := i.value * Nat.pow 10 (-e).toNat / (i.denominator * Nat.pow 10 e.toNat)
  match i.holds below e, i.holds (below + 1) e with
  | false, false => none
  | true, false => some (below, e)
  | false, true => some (below + 1, e)
  | true, true =>
    let twice := 2 * i.value * Nat.pow 10 (-e).toNat
    let middle := (2 * below + 1) * i.denominator * Nat.pow 10 e.toNat
    if twice < middle then some (below, e) else some (below + 1, e)

/-- The first hit on the grids of 1, 2, … 17 digits. -/
def Interval.shortest (i : Interval) : Nat × Int :=
  ((List.range 17).findSome? fun n => i.onGrid? (n + 1)).getD (0, 0)

/-- The shortest decimal that rounds to `m · 2 ^ q`, for a positive `m`. -/
def digits (m : Nat) (q : Int) : Nat × Int := (Interval.of m q).shortest

end Shortest

/-- A decimal `n · 10 ^ e` written out: zeros fill it up to the point, and a fraction has no zero
at its end. -/
def writeDecimal (n : Nat) (e : Int) : List Char :=
  let ds := Text.decimal n
  if 0 ≤ e then ds ++ List.replicate e.toNat '0'
  else
    let places := (-e).toNat
    let padded := List.replicate (places + 1 - ds.length) '0' ++ ds
    let whole := padded.take (padded.length - places)
    let fraction := Text.trimEndBy (· == '0') (padded.drop (padded.length - places))
    if fraction.isEmpty then whole else whole ++ '.' :: fraction

/-- A double in full: the fewest digits that read back, no exponent, no point in a whole number. -/
def printFloat (x : Float) : List Char :=
  match Binary64.ofFloat x with
  | .nan => ['N', 'a', 'N']
  | .infinite negative => if negative then ['-', 'i', 'n', 'f'] else ['i', 'n', 'f']
  | .finite negative m q =>
    let size :=
      if m = 0 then ['0'] else writeDecimal (Shortest.digits m q).1 (Shortest.digits m q).2
    if negative then '-' :: size else size

def floatText (x : Float) : String := String.ofList (printFloat x)

end PgMetrics
