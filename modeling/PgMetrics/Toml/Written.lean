import PgMetrics.Text.Number
import PgMetrics.Toml.Number
import PgMetrics.Toml.Value

/-!
# Documents of TOML as they are written

A table's own pairs come first, then the tables in it, each with a header and each after a blank
line. An empty table has a header too, and a table with nothing but tables in it has none. A list of
tables is written as a series. A string takes the first of these forms that shows it without
escapes: double quotes, single quotes, three double quotes, three single quotes; if none does, it is
written with escapes.

## Main definitions

* `Written.string`, `Written.key`: strings and keys.
* `Written.document`: a whole document.
-/

namespace PgMetrics.Toml.Written

/-! ## Strings -/

/-- Whether `c` is a control character that only an escape shows. -/
def needsEscape (c : Char) : Bool := !isPlain c && c != '\n'

/-- The length of the longest run of a character. -/
def longestRun (x : Char) (s : List Char) : Nat :=
  (s.foldl (fun (run, longest) c =>
    if c = x then (run + 1, max longest (run + 1)) else (0, longest)) (0, 0)).2

/-- A code point in four upper-case hexadecimal digits. -/
def fourDigits (n : Nat) : List Char :=
  let digits := (Nat.toDigits 16 n).map Text.upperAscii
  List.replicate (4 - digits.length) '0' ++ digits

def escaped (c : Char) : List Char :=
  match [('\x08', 'b'), ('\t', 't'), ('\n', 'n'), ('\x0c', 'f'), ('\r', 'r'), ('"', '"'),
      ('\\', '\\')].lookup c with
  | some letter => ['\\', letter]
  | none => if needsEscape c then '\\' :: 'u' :: fourDigits c.toNat else [c]

/-- A text between three double quotes, after `quotes` quotes: every third quote of a run is
escaped, and line feeds stand as they are. -/
def escapedLines (quotes : Nat) : List Char → List Char
  | [] => []
  | '\n' :: s => '\n' :: escapedLines 0 s
  | '"' :: s =>
    if quotes = 2 then '\\' :: '"' :: escapedLines 0 s
    else '"' :: escapedLines (quotes + 1) s
  | c :: s => escaped c ++ escapedLines 0 s

/-- A text on one line between double quotes. -/
def basic (s : List Char) : List Char := '"' :: (s.flatMap escaped ++ ['"'])

/-- A text between quotes without escapes. -/
def literal (s : List Char) : List Char := '\'' :: (s ++ ['\''])

/-- What follows three opening quotes: a line feed if the text has any, which does not count. -/
def opening (s : List Char) : List Char := if '\n' ∈ s then ['\n'] else []

/-- A text over several lines between three double quotes. -/
def basicLines (s : List Char) : List Char :=
  "\"\"\"".toList ++ opening s ++ escapedLines 0 s ++ "\"\"\"".toList

/-- A text over several lines without escapes. -/
def literalLines (s : List Char) : List Char :=
  "'''".toList ++ opening s ++ s ++ "'''".toList

/-- A string in the form that suits it. -/
def string (s : List Char) : List Char :=
  let controls := s.any needsEscape
  let backslash := '\\' ∈ s
  let lines := '\n' ∈ s
  if !controls && !backslash && !lines && '"' ∉ s then basic s
  else if !controls && !lines && '\'' ∉ s then literal s
  else if !controls && !backslash && longestRun '"' s ≤ 2 then basicLines s
  else if !controls && longestRun '\'' s ≤ 2 then literalLines s
  else if lines then basicLines s
  else basic s

/-- A key in the form that suits it. -/
def key (k : String) : List Char :=
  let s := k.toList
  if !s.isEmpty && s.all isBare then s
  else if !s.any needsEscape && '\\' ∉ s && '\n' ∉ s && '"' ∉ s then basic s
  else if !s.any needsEscape && '\n' ∉ s && '\'' ∉ s then literal s
  else basic s

/-! ## Pairs and tables -/

/-- Why a tree cannot be written. -/
inductive Refusal where
  /-- A whole number above 64 bits in two's complement. -/
  | outOfRange
  /-- A tree that is not a document, or a list in which not all items are tables. -/
  | unsuitable
  deriving DecidableEq, Repr

def Refusal.message : Refusal → String
  | .outOfRange => "out-of-range value for u64 type"
  | .unsuitable => "unsupported value"

/-- Whether a tree is written under a header. -/
def isSection : Tree → Bool
  | .table _ => true
  | .list (.table _ :: _) => true
  | _ => false

def value : Tree → Except Refusal (List Char)
  | .text s => .ok (string s.toList)
  | .flag b => .ok (if b then "true" else "false").toList
  | .number i => if inRange i then .ok (Text.integer i) else .error .outOfRange
  | .list [] => .ok "[]".toList
  | _ => .error .unsuitable

/-- A pair on a line of its own. -/
def pair (e : String × Tree) : Except Refusal (List Char) := do
  return key e.1 ++ " = ".toList ++ (← value e.2) ++ ['\n']

def pairs (entries : List (String × Tree)) : Except Refusal (List Char) := do
  return (← (entries.filter fun e => !isSection e.2).mapM pair).flatten

def path (keys : List String) : List Char := ((keys.map key).intersperse ['.']).flatten

/-- The header and the pairs of a table. -/
def block (isSeries : Bool) (keys : List String) (entries : List (String × Tree)) :
    Except Refusal (List Char) := do
  let (left, right) := if isSeries then ("[[", "]]\n") else ("[", "]\n")
  return left.toList ++ path keys ++ right.toList ++ (← pairs entries)

/-- Whether a table has a header: it has pairs, or nothing at all. -/
def hasHeader (entries : List (String × Tree)) : Bool :=
  entries.isEmpty || entries.any fun e => !isSection e.2

mutual

/-- The blocks of a tree that is written under a header. -/
def blocksOf (keys : List String) : Tree → Except Refusal (List (List Char))
  | .table entries => do
    let own ← if hasHeader entries then do pure [← block false keys entries] else pure []
    return own ++ (← blocksOfEntries keys entries)
  | .list items => blocksOfItems keys items
  | _ => .ok []

/-- The blocks of the tables among entries. -/
def blocksOfEntries (keys : List String) : List (String × Tree) → Except Refusal (List (List Char))
  | [] => .ok []
  | (k, t) :: rest => do return (← blocksOf (keys ++ [k]) t) ++ (← blocksOfEntries keys rest)

def blocksOfItems (keys : List String) : List Tree → Except Refusal (List (List Char))
  | [] => .ok []
  | .table entries :: rest => do
    let own ← block true keys entries
    return own :: (← blocksOfEntries keys entries) ++ (← blocksOfItems keys rest)
  | _ :: _ => .error .unsuitable

end

def document : Tree → Except Refusal (List Char)
  | .table entries => do
    let own ← pairs entries
    let blocks ← blocksOfEntries [] entries
    return (((if own.isEmpty then [] else [own]) ++ blocks).intersperse ['\n']).flatten
  | _ => .error .unsuitable

end PgMetrics.Toml.Written
