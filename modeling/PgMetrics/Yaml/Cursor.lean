import PgMetrics.Text.Blank

/-!
# Places in a YAML text

A cursor is the text that is still to be read and the place where it begins: the number of octets
before it in UTF-8, its line, and its column in characters. Five characters break lines; a carriage
return and a line feed together break one.

## Main definitions

* `Cursor`, `Cursor.advance`, `Cursor.takeBreak`.
* `Gap`: the blanks and breaks between two words of a scalar, and the text that they fold to.
-/

namespace PgMetrics.Yaml

/-- Whether `c` may stand in a text at all. -/
def isPrintable (c : Char) : Bool :=
  let n := c.toNat
  n == 9 || n == 10 || n == 13 || (0x20 ≤ n && n ≤ 0x7E) || n == 0x85 ||
    (0xA0 ≤ n && n ≤ 0xD7FF) || (0xE000 ≤ n && n ≤ 0xFFFD) || 0x10000 ≤ n

def isBreak (c : Char) : Bool :=
  c == '\n' || c == '\r' || c.toNat == 0x85 || c.toNat == 0x2028 || c.toNat == 0x2029

/-- Whether `c` is a space or a tab. -/
def isWhite (c : Char) : Bool := c == ' ' || c == '\t'

/-- Whether `c` may stand in the name of an anchor, a handle or a directive. -/
def isNameChar (c : Char) : Bool := c.isAlphanum || c == '_' || c == '-'

/-- A place in a text. -/
structure Cursor where
  rest : List Char
  /-- The number of octets before it. -/
  index : Nat
  line : Nat
  column : Nat

namespace Cursor

def start (text : List Char) : Cursor := ⟨text, 0, 0, 0⟩

def peek? (c : Cursor) (n : Nat) : Option Char := c.rest[n]?

/-- Whether the character `n` places ahead is `x`. -/
def sees (c : Cursor) (n : Nat) (x : Char) : Bool := c.peek? n == some x

/-- Whether the text ends `n` places ahead or goes on with a character that satisfies `p`. -/
def seesEndOr (p : Char → Bool) (c : Cursor) (n : Nat) : Bool :=
  match c.peek? n with
  | none => true
  | some x => p x

/-- Whether a word ends `n` places ahead. -/
def atWordEnd (c : Cursor) (n : Nat) : Bool := c.seesEndOr (fun x => isWhite x || isBreak x) n

def atLineEnd (c : Cursor) : Bool := c.seesEndOr isBreak 0

/-- Whether the line starts with the three marks that begin or end a document. -/
def atDocumentMark (c : Cursor) (mark : Char) : Bool :=
  c.column == 0 && c.sees 0 mark && c.sees 1 mark && c.sees 2 mark && c.atWordEnd 3

/-- Whether a document begins or ends here. -/
def atDocumentEdge (c : Cursor) : Bool := c.atDocumentMark '-' || c.atDocumentMark '.'

/-- The number of octets in the next `n` characters. -/
def width (c : Cursor) (n : Nat) : Nat := 
  (c.rest.take n).foldr (fun d width => d.utf8Size + width) 0

/-- Moves over `n` characters, none of which breaks a line. -/
def advance (c : Cursor) (n : Nat) : Cursor :=
  ⟨c.rest.drop n, c.index + c.width n, c.line, c.column + n⟩

/-- Moves over the characters at the front that satisfy `p`. -/
def skipWhile (p : Char → Bool) (c : Cursor) : Cursor := c.advance (c.rest.takeWhile p).length

/-- Moves to the next line after `n` characters. -/
def nextLine (c : Cursor) (n : Nat) : Cursor :=
  ⟨c.rest.drop n, c.index + c.width n, c.line + 1, 0⟩

/-- Moves over a line break, if there is one, and gives what stands for it: a line feed, or the
separator itself where Unicode has one for the purpose. -/
def takeBreak (c : Cursor) : List Char × Cursor :=
  match c.rest with
  | '\r' :: '\n' :: _ => (['\n'], c.nextLine 2)
  | x :: _ =>
    if isBreak x then
      (if x.toNat = 0x2028 ∨ x.toNat = 0x2029 then [x] else ['\n'], c.nextLine 1)
    else ([], c)
  | [] => ([], c)

def skipComment (c : Cursor) : Cursor :=
  if c.sees 0 '#' then c.skipWhile fun x => !isBreak x else c

/-- Moves over the rest of a line on which nothing but blanks and a comment may stand. -/
def finishLine? (c : Cursor) : Option Cursor :=
  let c := (c.skipWhile isWhite).skipComment
  if c.atLineEnd then some c.takeBreak.2 else none

end Cursor

/-- What stands between two words: blanks on one line, or line breaks. -/
structure Gap where
  blanks : List Char
  /-- Whether a line ended. -/
  crossed : Bool
  firstBreak : List Char
  moreBreaks : List Char

namespace Gap

def none : Gap := ⟨[], false, [], []⟩

/-- The gap after a line break that was escaped. -/
def afterEscapedBreak : Gap := ⟨[], true, [], []⟩

/-- The text of folded line breaks: a single one is a space, and the first of many is dropped. -/
def fold (first more : List Char) : List Char :=
  if first = ['\n'] then (if more.isEmpty then [' '] else more) else first ++ more

/-- The text that the gap stands for. -/
def text (g : Gap) : List Char := if g.crossed then fold g.firstBreak g.moreBreaks else g.blanks

/-- Adds a blank; at the start of a line it does not count. -/
def addBlank (g : Gap) (x : Char) : Gap :=
  if g.crossed then g else { g with blanks := g.blanks ++ [x] }

def addBreak (g : Gap) (b : List Char) : Gap :=
  if g.crossed then { g with moreBreaks := g.moreBreaks ++ b }
  else { g with blanks := [], crossed := true, firstBreak := b }

/-- Reads a gap. A tab before column `indent` of a new line is refused. -/
def read? (indent : Nat) : (fuel : Nat) → Gap → Cursor → Option (Gap × Cursor)
  | 0, _, _ => Option.none
  | fuel + 1, g, c =>
    match c.rest with
    | [] => some (g, c)
    | x :: _ =>
      if isWhite x then
        if g.crossed && c.column < indent && x == '\t' then Option.none
        else read? indent fuel (g.addBlank x) (c.advance 1)
      else if isBreak x then
        let (b, c) := c.takeBreak
        read? indent fuel (g.addBreak b) c
      else some (g, c)

end Gap

end PgMetrics.Yaml
