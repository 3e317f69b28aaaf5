import PgMetrics.Net.Address
import PgMetrics.Text.Blank
import PgMetrics.Text.Number

/-!
# Socket addresses

A socket address is a dotted quad with a port, or groups in brackets with a port. In groups, one
double colon stands for at least one zero group, the last two groups may be written as a quad, and
a scope may follow a percent sign.

## Main definitions

* `SocketAddress`, `SocketAddress.parse?`.
-/

namespace PgMetrics

/-- An address and a port. -/
structure SocketAddress where
  ip : IpAddress
  scope : Nat
  port : UInt16
  deriving DecidableEq, Repr

namespace SocketAddress

/-- How a number is written. -/
structure NumberForm where
  base : Nat
  maxDigits : Option Nat
  /-- Whether a zero may stand before other digits. -/
  zeroPadded : Bool
  bound : Nat

def octetForm : NumberForm := ⟨10, some 3, false, UInt8.size⟩

def groupForm : NumberForm := ⟨16, some 4, true, UInt16.size⟩

def portForm : NumberForm := ⟨10, none, true, UInt16.size⟩

def scopeForm : NumberForm := ⟨10, none, true, UInt32.size⟩

/-- Reads the digits at the front as a number. -/
def number? (f : NumberForm) (s : List Char) : Option (Nat × List Char) :=
  let isDigit (c : Char) := (Text.digitIn? f.base c).isSome
  let digits := s.takeWhile isDigit
  let value := digits.foldl (fun n c => f.base * n + (Text.digitIn? f.base c).getD 0) 0
  let tooLong := match f.maxDigits with
    | some m => m < digits.length
    | none => false
  let padded := 1 < digits.length && digits.head? == some '0'
  if digits.isEmpty || tooLong || (padded && !f.zeroPadded) || f.bound ≤ value then none
  else some (value, s.dropWhile isDigit)

/-- Reads a number after a sign. -/
def numberAfter? (sign : Char) (f : NumberForm) (s : List Char) : Option (Nat × List Char) :=
  match s with
  | c :: t => if c = sign then number? f t else none
  | [] => none

def quad? (s : List Char) : Option (Quad × List Char) := do
  let (a, s) ← number? octetForm s
  let (b, s) ← numberAfter? '.' octetForm s
  let (c, s) ← numberAfter? '.' octetForm s
  let (d, s) ← numberAfter? '.' octetForm s
  return (⟨a.toUInt8, b.toUInt8, c.toUInt8, d.toUInt8⟩, s)

/-- Groups that were read, whether they end in a quad, and what follows. -/
structure GroupRun where
  groups : List UInt16
  endsInQuad : Bool
  rest : List Char

/-- The text after the colon that a group needs before it, unless it is the first. -/
def afterColon? (first : Bool) (s : List Char) : Option (List Char) :=
  if first then some s else Text.dropStart? [':'] s

/-- Reads groups joined by colons, at most `limit`. -/
def groupRun : (limit : Nat) → (first : Bool) → List Char → GroupRun
  | 0, _, s => ⟨[], false, s⟩
  | limit + 1, first, s =>
    match afterColon? first s with
    | none => ⟨[], false, s⟩
    | some t =>
      match (if limit = 0 then none else quad? t) with
      | some (q, rest) => ⟨q.groups, true, rest⟩
      | none =>
        match number? groupForm t with
        | none => ⟨[], false, s⟩
        | some (g, rest) =>
          let others := groupRun limit false rest
          ⟨g.toUInt16 :: others.groups, others.endsInQuad, others.rest⟩

/-- Reads the eight groups of an address. -/
def groups? (s : List Char) : Option (List UInt16 × List Char) :=
  let head := groupRun 8 true s
  if head.groups.length = 8 then some (head.groups, head.rest)
  else if head.endsInQuad then none
  else
    match Text.dropStart? [':', ':'] head.rest with
    | none => none
    | some t =>
      let tail := groupRun (7 - head.groups.length) true t
      let zeros := List.replicate (8 - head.groups.length - tail.groups.length) 0
      some (head.groups ++ zeros ++ tail.groups, tail.rest)

/-- Reads a quad with a port. -/
def parseQuad? (s : List Char) : Option (SocketAddress × List Char) := do
  let (q, s) ← quad? s
  let (port, s) ← numberAfter? ':' portForm s
  return (⟨.v4 q, 0, port.toUInt16⟩, s)

/-- Reads groups in brackets with a port. -/
def parseGroups? (s : List Char) : Option (SocketAddress × List Char) := do
  let s ← Text.dropStart? ['['] s
  let (groups, s) ← groups? s
  let (scope, s) := (numberAfter? '%' scopeForm s).getD (0, s)
  let s ← Text.dropStart? [']'] s
  let (port, s) ← numberAfter? ':' portForm s
  return (⟨.v6 groups, scope, port.toUInt16⟩, s)

/-- The socket address that a whole text is. -/
def parse? (s : String) : Option SocketAddress :=
  match (parseQuad? s.toList).orElse fun _ => parseGroups? s.toList with
  | some (a, []) => some a
  | _ => none

end SocketAddress

end PgMetrics
