import PgMetrics.Text.Number

/-!
# Network addresses

Addresses of four octets and of eight groups, with their canonical texts: a dotted quad, and
lower-case groups in which the first longest run of two or more zero groups is left out. An address
that stands for a quad ends in it.

## Main definitions

* `IpAddress`, `IpAddress.render`.
* `zeroRun`: the run of groups that is left out.
* `Inet.text?`: the text of an address with a mask, as a server sends it.
-/

namespace PgMetrics

/-- An address of four octets. -/
structure Quad where
  a : UInt8
  b : UInt8
  c : UInt8
  d : UInt8
  deriving DecidableEq, Repr

/-- An address of either family. The groups of the longer one are eight. -/
inductive IpAddress where
  | v4 (quad : Quad)
  | v6 (groups : List UInt16)
  deriving DecidableEq, Repr

/-- The group made of two octets. -/
def groupOf (high low : UInt8) : UInt16 := high.toUInt16 * 256 + low.toUInt16

/-- The groups of a sequence of octets. -/
def groupsOf : List UInt8 → List UInt16
  | high :: low :: rest => groupOf high low :: groupsOf rest
  | _ => []

namespace Quad

/-- The four octets in decimal, joined by points. -/
def render (q : Quad) : List Char :=
  let part (n : UInt8) := Text.decimal n.toNat
  part q.a ++ '.' :: (part q.b ++ '.' :: (part q.c ++ '.' :: part q.d))

def groups (q : Quad) : List UInt16 := [groupOf q.a q.b, groupOf q.c q.d]

/-- The quad that two groups stand for. -/
def ofGroups (high low : UInt16) : Quad :=
  ⟨(high / 256).toUInt8, high.toUInt8, (low / 256).toUInt8, low.toUInt8⟩

end Quad

/-- A run of zero groups: where it begins and how long it is. -/
structure ZeroRun where
  start : Nat
  length : Nat
  deriving DecidableEq, Repr

/-- The number of zero groups at the front. -/
def leadingZeros (groups : List UInt16) : Nat := (groups.takeWhile (· == 0)).length

/-- The first of the longest runs of zero groups. -/
def zeroRun : List UInt16 → ZeroRun
  | [] => ⟨0, 0⟩
  | g :: rest =>
    let later := zeroRun rest
    let here := leadingZeros (g :: rest)
    if later.length ≤ here then ⟨0, here⟩ else ⟨later.start + 1, later.length⟩

/-- Groups in lower-case hexadecimal, joined by colons. -/
def renderGroups (groups : List UInt16) : List Char :=
  ((groups.map fun g => Nat.toDigits 16 g.toNat).intersperse [':']).flatten

namespace IpAddress

def render : IpAddress → List Char
  | .v4 q => q.render
  | .v6 [0, 0, 0, 0, 0, 0xFFFF, high, low] =>
    "::ffff:".toList ++ (Quad.ofGroups high low).render
  | .v6 groups =>
    let run := zeroRun groups
    if 1 < run.length then
      renderGroups (groups.take run.start) ++ [':', ':'] ++
        renderGroups (groups.drop (run.start + run.length))
    else renderGroups groups

/-- The number of bits of an address of the family. -/
def bits : IpAddress → Nat
  | .v4 _ => 32
  | .v6 _ => 128

/-- The address in the octets that follow the header of a family: the family is 2 or 3, and the
length has to be right. -/
def ofOctets? (family length : Nat) (octets : List UInt8) : Option IpAddress :=
  match family, length, octets with
  | 2, 4, [a, b, c, d] => some (.v4 ⟨a, b, c, d⟩)
  | 3, 16, octets => if octets.length = 16 then some (.v6 (groupsOf octets)) else none
  | _, _, _ => none

end IpAddress

namespace Inet

/-- The text of a binary network address: family, mask, a flag that is not used, length and the
octets of the address. The mask is written for networks, and for hosts unless it is full. -/
def text? (octets : List UInt8) (network : Bool) : Option String :=
  match octets with
  | family :: mask :: _ :: length :: address =>
    (IpAddress.ofOctets? family.toNat length.toNat address).map fun a =>
      String.ofList
        (if network || mask.toNat != a.bits then a.render ++ '/' :: Text.decimal mask.toNat
          else a.render)
  | _ => none

end Inet

end PgMetrics
