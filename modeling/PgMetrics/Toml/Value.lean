import PgMetrics.Toml.Moment
import PgMetrics.Toml.Number
import PgMetrics.Toml.Quoted
import PgMetrics.Toml.Table

/-!
# Keys and values of TOML

A value is a string, a word, an array or a table between braces. Arrays may go over several lines
and may end with a comma; tables between braces may do neither.

## Main definitions

* `keys?`: a key with all its parts.
* `value?`: a value.
-/

namespace PgMetrics.Toml

/-- Below this number of parts a key is read, and below this depth an array or a table. -/
def depthLimit : Nat := 80

/-- The text without the spaces at its front. -/
def skipSpaces (s : List Char) : List Char := s.dropWhile isSpace

/-- The text from the end of the comment at its front. -/
def skipComment : List Char → List Char
  | '#' :: s => s.dropWhile isPlain
  | s => s

/-- The text without the spaces, line breaks and comments at its front. -/
def skipFiller : (fuel : Nat) → List Char → List Char
  | 0, s => s
  | fuel + 1, s =>
    match skipLines s with
    | '#' :: t => skipFiller fuel (t.dropWhile isPlain)
    | t => t

/-! ## Keys -/

/-- Whether `c` may stand in a key without quotes. -/
def isBare (c : Char) : Bool := c.isAlphanum || c == '_' || c == '-'

def keyPart? (s : List Char) : Option (String × List Char) :=
  match quotedKey? s with
  | some (k, s) => some (String.ofList k, s)
  | none =>
    if (s.takeWhile isBare).isEmpty then none
    else some (String.ofList (s.takeWhile isBare), s.dropWhile isBare)

/-- The parts of a key with spaces around them. -/
def keyParts? : (fuel : Nat) → List Char → Option (List String × List Char)
  | 0, _ => none
  | fuel + 1, s => do
    let (k, s) ← keyPart? (skipSpaces s)
    match skipSpaces s with
    | '.' :: s =>
      let (ks, s) ← keyParts? fuel s
      return (k :: ks, s)
    | s => return ([k], s)

/-- A key: the path to it and its last part. -/
def keys? (s : List Char) : Option ((List String × String) × List Char) := do
  let (ks, s) ← keyParts? depthLimit s
  match ks.getLast? with
  | some k => if ks.length < depthLimit then return ((ks.dropLast, k), s) else none
  | none => none

/-! ## Words -/

def endsWord (c : Char) : Bool :=
  isSpace c || c == '\n' || c == '\r' || c == ',' || c == ']' || c == '\x7d' || c == '#'

def wordAt (s : List Char) : List Char := s.takeWhile (!endsWord ·)

/-- What follows the word at the front. -/
def afterWord (s : List Char) : List Char := s.dropWhile (!endsWord ·)

/-- The tree of a moment: a table with one reserved entry. -/
def moment (written : List Char) : Tree :=
  .table [("$__toml_private_datetime", .text (String.ofList written))]

def wordValue? (w : List Char) : Option Tree :=
  if w = "true".toList then some (.flag true)
  else if w = "false".toList then some (.flag false)
  else
    match integer? w with
    | some i => some (.number i)
    | none =>
      if isReal w then some (.real (String.ofList w))
      else if isMoment w then some (moment w)
      else none

/-- The value of the word at the front. A time may follow a date after one space. -/
def word? (s : List Char) : Option (Tree × List Char) :=
  let (w, rest) := (wordAt s, afterWord s)
  match rest with
  | ' ' :: t =>
    if isDate w && ((t.head?.map Char.isDigit).getD false) then
      if isZonedTime (wordAt t) then some (moment (w ++ ' ' :: wordAt t), afterWord t) else none
    else do return (← wordValue? w, rest)
  | _ => do return (← wordValue? w, rest)

/-! ## Values -/

mutual

def valueAt? : (fuel : Nat) → (depth : Nat) → List Char → Option (Tree × List Char)
  | 0, _, _ => none
  | fuel + 1, depth, s =>
    match s with
    | '[' :: s =>
      match depth with
      | 0 => none
      | depth + 1 => do
        let (items, s) ← itemsAt? fuel depth s
        return (.list items, s)
    | '\x7b' :: s =>
      match depth with
      | 0 => none
      | depth + 1 =>
        match skipSpaces s with
        | '\x7d' :: s => some (.table [], s)
        | s => do
          let (entries, s) ← pairsAt? fuel depth [] s
          return (.table (entryTrees entries), s)
    | s =>
      match string? s with
      | some (text, s) => some (.text (String.ofList text), s)
      | none => word? s

/-- The items of an array up to its closing bracket. -/
def itemsAt? : (fuel : Nat) → (depth : Nat) → List Char → Option (List Tree × List Char)
  | 0, _, _ => none
  | fuel + 1, depth, s =>
    match skipFiller s.length s with
    | ']' :: s => some ([], s)
    | s => do
      let (item, s) ← valueAt? fuel depth s
      match skipFiller s.length s with
      | ',' :: s =>
        let (items, s) ← itemsAt? fuel depth s
        return (item :: items, s)
      | ']' :: s => return ([item], s)
      | _ => none

/-- The pairs of a table between braces, added to the ones before, up to its closing brace. -/
def pairsAt? : (fuel : Nat) → (depth : Nat) → Entries → List Char →
    Option (Entries × List Char)
  | 0, _, _, _ => none
  | fuel + 1, depth, t, s => do
    let ((path, k), s) ← keys? s
    match s with
    | '=' :: s =>
      let (v, s) ← valueAt? fuel depth (skipSpaces s)
      let t ← addPair? path k v t
      match skipSpaces s with
      | ',' :: s => pairsAt? fuel depth t s
      | '\x7d' :: s => return (t, s)
      | _ => none
    | _ => none

end

/-- The value at the front of a text. Every second step takes at least one character. -/
def value? (s : List Char) : Option (Tree × List Char) :=
  valueAt? (2 * s.length + 2) (depthLimit - 1) s

end PgMetrics.Toml
