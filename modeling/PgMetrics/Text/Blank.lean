/-!
# Blank characters, trimming and splitting

Blanks are the 25 characters of the Unicode property White_Space.

## Main definitions

* `isBlank`, `trim`: blanks cut off at both ends.
* `pieces`: the text between separators, one piece more than there are separators.
* `words`: the maximal runs without a blank.
-/

namespace PgMetrics.Text

/-- Whether `c` has the Unicode property White_Space. -/
def isBlank (c : Char) : Bool :=
  let n := c.toNat
  (9 ≤ n && n ≤ 13) || n == 0x20 || n == 0x85 || n == 0xA0 || n == 0x1680 ||
    (0x2000 ≤ n && n ≤ 0x200A) || n == 0x2028 || n == 0x2029 || n == 0x202F || n == 0x205F ||
    n == 0x3000

/-- The text from its first character that fails `p`. -/
def trimStartBy (p : Char → Bool) (s : List Char) : List Char := s.dropWhile p

/-- The text up to its last character that fails `p`. -/
def trimEndBy (p : Char → Bool) (s : List Char) : List Char := (s.reverse.dropWhile p).reverse

/-- The text without the blanks at its two ends. -/
def trim (s : List Char) : List Char := trimEndBy isBlank (trimStartBy isBlank s)

/-- The text between the characters that satisfy `p`; empty pieces are kept. -/
def pieces (p : Char → Bool) : List Char → List (List Char)
  | [] => [[]]
  | c :: s =>
    if p c then [] :: pieces p s
    else
      match pieces p s with
      | [] => [[c]]
      | w :: ws => (c :: w) :: ws

/-- The maximal runs of characters that are not blank. -/
def words (s : List Char) : List (List Char) :=
  (pieces isBlank s).filter fun w => !w.isEmpty

/-- What follows `start` in `s`, if `s` begins with it. -/
def dropStart? : (start s : List Char) → Option (List Char)
  | [], s => some s
  | _ :: _, [] => none
  | c :: start, d :: s => if c = d then dropStart? start s else none

def occursIn (part : List Char) : List Char → Bool
  | [] => part.isEmpty
  | c :: s => part.isPrefixOf (c :: s) || occursIn part s

/-- The lines of a text, cut at every line feed. -/
def lines (s : String) : List String :=
  (pieces (· == '\n') s.toList).map String.ofList

/-- Whether a text has only blanks. -/
def isBlankText (s : String) : Bool := s.toList.all isBlank

/-- The upper case of an ASCII letter; every other character stays. -/
def upperAscii (c : Char) : Char :=
  if 'a' ≤ c ∧ c ≤ 'z' then Char.ofNat (c.toNat - 32) else c

/-- The lower case of an ASCII letter; every other character stays. -/
def lowerAscii (c : Char) : Char :=
  if 'A' ≤ c ∧ c ≤ 'Z' then Char.ofNat (c.toNat + 32) else c

end PgMetrics.Text
