import PgMetrics.Text.Number

/-!
# Digests

The 64-bit digest by which revisions of a file are told apart: XXH3 without a seed. Short texts are
mixed in one step, texts of middle length in pieces of sixteen octets, and long texts by eight
lanes that take a stripe of 64 octets at a time.

## Main definitions

* `Digest.short`, `Digest.middle`, `Digest.long`: the digest by class of length.
* `Digest.of`: the digest of a sequence of octets.
* `Digest.text`: the digest in sixteen hexadecimal digits.
-/

namespace PgMetrics.Digest

/-- The constants that are mixed in. -/
def secret : Array UInt8 := #[
  0xb8, 0xfe, 0x6c, 0x39, 0x23, 0xa4, 0x4b, 0xbe, 0x7c, 0x01, 0x81, 0x2c,
  0xf7, 0x21, 0xad, 0x1c, 0xde, 0xd4, 0x6d, 0xe9, 0x83, 0x90, 0x97, 0xdb,
  0x72, 0x40, 0xa4, 0xa4, 0xb7, 0xb3, 0x67, 0x1f, 0xcb, 0x79, 0xe6, 0x4e,
  0xcc, 0xc0, 0xe5, 0x78, 0x82, 0x5a, 0xd0, 0x7d, 0xcc, 0xff, 0x72, 0x21,
  0xb8, 0x08, 0x46, 0x74, 0xf7, 0x43, 0x24, 0x8e, 0xe0, 0x35, 0x90, 0xe6,
  0x81, 0x3a, 0x26, 0x4c, 0x3c, 0x28, 0x52, 0xbb, 0x91, 0xc3, 0x00, 0xcb,
  0x88, 0xd0, 0x65, 0x8b, 0x1b, 0x53, 0x2e, 0xa3, 0x71, 0x64, 0x48, 0x97,
  0xa2, 0x0d, 0xf9, 0x4e, 0x38, 0x19, 0xef, 0x46, 0xa9, 0xde, 0xac, 0xd8,
  0xa8, 0xfa, 0x76, 0x3f, 0xe3, 0x9c, 0x34, 0x3f, 0xf9, 0xdc, 0xbb, 0xc7,
  0xc7, 0x0b, 0x4f, 0x1d, 0x8a, 0x51, 0xe0, 0x4b, 0xcd, 0xb4, 0x59, 0x31,
  0xc8, 0x9f, 0x7e, 0xc9, 0xd9, 0x78, 0x73, 0x64, 0xea, 0xc5, 0xac, 0x83,
  0x34, 0xd3, 0xeb, 0xc3, 0xc5, 0x81, 0xa0, 0xff, 0xfa, 0x13, 0x63, 0xeb,
  0x17, 0x0d, 0xdd, 0x51, 0xb7, 0xf0, 0xda, 0x49, 0xd3, 0x16, 0x55, 0x26,
  0x29, 0xd4, 0x68, 0x9e, 0x2b, 0x16, 0xbe, 0x58, 0x7d, 0x47, 0xa1, 0xfc,
  0x8f, 0xf8, 0xb8, 0xd1, 0x7a, 0xd0, 0x31, 0xce, 0x45, 0xcb, 0x3a, 0x8f,
  0x95, 0x16, 0x04, 0x28, 0xaf, 0xd7, 0xfb, 0xca, 0xbb, 0x4b, 0x40, 0x7e]

def prime32 : Array UInt64 := #[0x9E3779B1, 0x85EBCA77, 0xC2B2AE3D]

def prime64 : Array UInt64 := #[0x9E3779B185EBCA87, 0xC2B2AE3D27D4EB4F, 0x165667B19E3779F9,
  0x85EBCA77C2B2AE63, 0x27D4EB2F165667C5]

def octet (a : Array UInt8) (i : Nat) : UInt64 := (a.getD i 0).toUInt64

/-- Four octets from place `i`, the lowest first. -/
def word32 (a : Array UInt8) (i : Nat) : UInt64 :=
  octet a i ||| (octet a (i + 1) <<< 8) ||| (octet a (i + 2) <<< 16) ||| (octet a (i + 3) <<< 24)

/-- Eight octets from place `i`, the lowest first. -/
def word64 (a : Array UInt8) (i : Nat) : UInt64 := word32 a i ||| (word32 a (i + 4) <<< 32)

/-- The octets of a word in reverse. -/
def swapOctets (w : UInt64) : UInt64 :=
  (List.range 8).foldl
    (fun r i => (r <<< 8) ||| ((w >>> (8 * i).toUInt64) &&& 0xFF)) 0

/-- A word turned to the left. -/
def rotate (w : UInt64) (n : UInt64) : UInt64 := (w <<< n) ||| (w >>> (64 - n))

/-- The exclusive or of a word and itself moved to the right. -/
def fold (w : UInt64) (n : UInt64) : UInt64 := w ^^^ (w >>> n)

/-- The halves of the product of two words, put together. -/
def multiplyFold (a b : UInt64) : UInt64 :=
  let product := a.toNat * b.toNat
  UInt64.ofNat product ^^^ UInt64.ofNat (product / UInt64.size)

/-- The final mixing of the shortest texts. -/
def finishShort (h : UInt64) : UInt64 :=
  fold (fold (fold h 33 * prime64.getD 1 0) 29 * prime64.getD 2 0) 32

/-- The final mixing of all others. -/
def finish (h : UInt64) : UInt64 := fold (fold h 37 * 0x165667919E3779F9) 32

/-- Sixteen octets of a text with sixteen of the secret. -/
def mix (a : Array UInt8) (i s : Nat) : UInt64 :=
  multiplyFold (word64 a i ^^^ word64 secret s) (word64 a (i + 8) ^^^ word64 secret (s + 8))

/-- The digest of at most sixteen octets. -/
def short (a : Array UInt8) : UInt64 :=
  let n := a.size
  let size := UInt64.ofNat n
  if n = 0 then finishShort (word64 secret 56 ^^^ word64 secret 64)
  else if n < 4 then
    let combined :=
      (octet a 0 <<< 16) ||| (octet a (n / 2) <<< 24) ||| octet a (n - 1) ||| (size <<< 8)
    finishShort (combined ^^^ (word32 secret 0 ^^^ word32 secret 4))
  else if n < 9 then
    let input := word32 a (n - 4) + (word32 a 0 <<< 32)
    let h := input ^^^ (word64 secret 8 ^^^ word64 secret 16)
    let h := (h ^^^ rotate h 49 ^^^ rotate h 24) * 0x9FB21C651E98DF25
    fold ((h ^^^ ((h >>> 35) + size)) * 0x9FB21C651E98DF25) 28
  else
    let low := word64 a 0 ^^^ (word64 secret 24 ^^^ word64 secret 32)
    let high := word64 a (n - 8) ^^^ (word64 secret 40 ^^^ word64 secret 48)
    finish (size + swapOctets low + high + multiplyFold low high)

/-- The sum of mixed pieces on top of `start`; a piece is a place in the text and one in the
secret. -/
def mixAll (a : Array UInt8) (start : UInt64) (places : List (Nat × Nat)) : UInt64 :=
  places.foldl (fun h p => h + mix a p.1 p.2) start

/-- The digest of 17 to 240 octets. Up to 128 the pieces are taken from both ends inward; beyond,
they are taken in order with a mixing after the eighth. -/
def middle (a : Array UInt8) : UInt64 :=
  let n := a.size
  let start := UInt64.ofNat n * prime64.getD 0 0
  if n ≤ 128 then
    let pairs := (List.range ((n + 31) / 32)).flatMap fun i =>
      [(16 * i, 32 * i), (n - 16 * (i + 1), 32 * i + 16)]
    finish (mixAll a start pairs)
  else
    let first := (List.range 8).map fun i => (16 * i, 16 * i)
    let later := (List.range (n / 16 - 8)).map fun i => (16 * (i + 8), 16 * i + 3)
    finish (mixAll a (finish (mixAll a start first)) (later ++ [(n - 16, 119)]))

def lanes : Array UInt64 := #[prime32.getD 2 0, prime64.getD 0 0, prime64.getD 1 0,
  prime64.getD 2 0, prime64.getD 3 0, prime32.getD 1 0, prime64.getD 4 0, prime32.getD 0 0]

/-- Takes a stripe from place `i` into the lanes, with the secret from place `s`. -/
def takeStripe (a : Array UInt8) (i s : Nat) (ls : Array UInt64) : Array UInt64 :=
  ls.mapIdx fun k lane =>
    let other := k + 1 - 2 * (k % 2)
    let key := word64 a (i + 8 * k) ^^^ word64 secret (s + 8 * k)
    lane + word64 a (i + 8 * other) + (key % 0x100000000) * (key >>> 32)

/-- Stirs the lanes, as is done after each block of sixteen stripes. -/
def stir (ls : Array UInt64) : Array UInt64 :=
  ls.mapIdx fun k lane => (fold lane 47 ^^^ word64 secret (128 + 8 * k)) * prime32.getD 0 0

/-- Takes `n` stripes of a block that begins at place `i`. -/
def takeStripes (a : Array UInt8) (i n : Nat) (ls : Array UInt64) : Array UInt64 :=
  (List.range n).foldl (fun ls k => takeStripe a (i + 64 * k) (8 * k) ls) ls

/-- The digest of more than 240 octets. The last stripe is taken from the end of the text. -/
def long (a : Array UInt8) : UInt64 :=
  let n := a.size
  let blocks := (n - 1) / 1024
  let ls := (List.range blocks).foldl (fun ls k => stir (takeStripes a (1024 * k) 16 ls)) lanes
  let ls := takeStripes a (1024 * blocks) ((n - 1 - 1024 * blocks) / 64) ls
  let ls := takeStripe a (n - 64) 121 ls
  let sums := (List.range 4).map fun k =>
    multiplyFold (ls.getD (2 * k) 0 ^^^ word64 secret (11 + 16 * k))
      (ls.getD (2 * k + 1) 0 ^^^ word64 secret (19 + 16 * k))
  finish (sums.foldl (· + ·) (UInt64.ofNat n * prime64.getD 0 0))

/-- The digest of a sequence of octets. -/
def of (a : Array UInt8) : UInt64 :=
  if a.size ≤ 16 then short a else if a.size ≤ 240 then middle a else long a

/-- A word in sixteen hexadecimal digits. -/
def hex (w : UInt64) : List Char :=
  let ds := Nat.toDigits 16 w.toNat
  List.replicate (16 - ds.length) '0' ++ ds

/-- The digest of a sequence of octets in sixteen hexadecimal digits. -/
def text (octets : List UInt8) : String := String.ofList (hex (of octets.toArray))

end PgMetrics.Digest
