/-!
# Reading UTF-8

Octets are read one sequence at a time. A sequence that goes wrong ends before the octet that
cannot continue it, so an ill-formed text splits into characters and maximal ill-formed parts.

## Main definitions

* `Utf8.next`: the character at the front, if it is well-formed, and how many octets it spans.
* `Utf8.decode?`: all or nothing.
* `Utf8.decodeLossy`: every maximal ill-formed part becomes U+FFFD.
-/

namespace PgMetrics.Text.Utf8

/-- Whether `b` continues a sequence whose next octet must lie in the given range. -/
def inRange (lo hi : Nat) (b : UInt8) : Bool := lo ≤ b.toNat && b.toNat ≤ hi

/-- The six payload bits of a continuation octet. -/
def payload (b : UInt8) : Nat := b.toNat % 64

/-- The range of the second octet after a leading octet; `none` for octets that lead no
sequence of two or more. -/
def secondRange? (b : UInt8) : Option (Nat × Nat) :=
  let n := b.toNat
  if n < 0xC2 then none
  else if n ≤ 0xDF then some (0x80, 0xBF)
  else if n = 0xE0 then some (0xA0, 0xBF)
  else if n = 0xED then some (0x80, 0x9F)
  else if n ≤ 0xEF then some (0x80, 0xBF)
  else if n = 0xF0 then some (0x90, 0xBF)
  else if n ≤ 0xF3 then some (0x80, 0xBF)
  else if n = 0xF4 then some (0x80, 0x8F)
  else none

/-- Reads what begins with the octet `b`: the character, or `none` if the sequence is ill-formed,
and the number of octets after `b` that belong to it. -/
def next (b : UInt8) (rest : List UInt8) : Option Char × Nat :=
  if b.toNat < 0x80 then (some (Char.ofNat b.toNat), 0)
  else
    match secondRange? b with
    | none => (none, 0)
    | some (lo, hi) =>
      match rest with
      | [] => (none, 0)
      | b2 :: rest2 =>
        if !inRange lo hi b2 then (none, 0)
        else if b.toNat < 0xE0 then (some (Char.ofNat (b.toNat % 32 * 64 + payload b2)), 1)
        else
          match rest2 with
          | [] => (none, 1)
          | b3 :: rest3 =>
            if !inRange 0x80 0xBF b3 then (none, 1)
            else if b.toNat < 0xF0 then
              (some (Char.ofNat (b.toNat % 16 * 4096 + payload b2 * 64 + payload b3)), 2)
            else
              match rest3 with
              | [] => (none, 2)
              | b4 :: _ =>
                if !inRange 0x80 0xBF b4 then (none, 2)
                else
                  (some (Char.ofNat (b.toNat % 8 * 262144 + payload b2 * 4096 +
                    payload b3 * 64 + payload b4)), 3)

/-- The characters of a sequence of octets, `none` for every maximal ill-formed part. -/
def parts : List UInt8 → List (Option Char)
  | [] => []
  | b :: rest => (next b rest).1 :: parts (rest.drop (next b rest).2)
termination_by s => s.length
decreasing_by simp only [List.length_drop, List.length_cons]; omega

/-- The text of a well-formed sequence of octets. -/
def decode? (s : List UInt8) : Option (List Char) := (parts s).mapM id

/-- The text of any sequence of octets, with U+FFFD for every maximal ill-formed part. -/
def decodeLossy (s : List UInt8) : List Char := (parts s).map fun c => c.getD (Char.ofNat 0xFFFD)

def encode (s : String) : List UInt8 := s.toUTF8.toList

end PgMetrics.Text.Utf8
