/-!
# The parts of a binary64 number

A finite double is `± m · 2 ^ q` with a natural number `m` below `2 ^ 53`.

## Main definitions

* `Binary64.ofFloat`: the parts of a double.
* `Binary64.rank`: the place of a double in the order in which both zeros are one and every NaN is
  one greatest element.
-/

namespace PgMetrics

/-- What a double stands for. -/
inductive Binary64 where
  | nan
  | infinite (negative : Bool)
  | finite (negative : Bool) (m : Nat) (q : Int)

namespace Binary64

/-- The sign among the bits of a double. -/
def signBit : Nat := 0x8000000000000000

/-- The bit that leads a fraction and is not written. -/
def leadingBit : Nat := 0x10000000000000

/-- The parts of the double with the given bits. -/
def ofBits (bits : Nat) : Binary64 :=
  let negative := bits / signBit == 1
  let exponent := bits / leadingBit % 2048
  let fraction := bits % leadingBit
  if exponent = 2047 then
    if fraction = 0 then .infinite negative else .nan
  else if exponent = 0 then .finite negative fraction (-1074)
  else .finite negative (fraction + leadingBit) (Int.ofNat exponent - 1075)

def ofFloat (x : Float) : Binary64 := ofBits x.toBits.toNat

/-- Whether a double is neither infinite nor a NaN. -/
def isFinite : Binary64 → Bool
  | .finite .. => true
  | _ => false

/-- A number that grows with the double: both zeros have the same rank and every NaN the
greatest. -/
def rank (x : Float) : Int :=
  let bits := x.toBits.toNat
  match ofBits bits with
  | .nan => signBit
  | _ => if bits / signBit = 1 then -Int.ofNat (bits % signBit) else Int.ofNat (bits % signBit)

end Binary64

end PgMetrics
