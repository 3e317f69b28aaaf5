import PgMetrics.Config.Tree
import PgMetrics.Decimal.Read
import PgMetrics.Text.Blank
import PgMetrics.Text.Number
import PgMetrics.Toml.Quoted

/-!
# Settings in environment variables

The variables come in the order in which the process has them, which need not be that of their
names; a name may also come twice. One whose name starts with the program's prefix sets one field;
two underscores lead into a section. The value is read as what it looks like: a truth value, a
number, a list in brackets, a table in braces, a quoted text. A value that does not fit any of these
as a whole is a text.

## Main definitions

* `Environment.value`: the tree of a value.
* `Environment.setting?`: the path and the tree of a variable.
* `Environment.tree`: the tree of all variables.
* `Environment.putOn`: a tree with that one put over it.
-/

namespace PgMetrics.Environment

/-! ## Values -/

/-- Whether `c` is an ASCII blank. -/
def isSpace (c : Char) : Bool :=
  c == ' ' || c == '\t' || c == '\n' || c == '\x0c' || c == '\r'

/-- The text without the blanks at its front. -/
def skipSpaces (s : List Char) : List Char := s.dropWhile isSpace

def isSeparator (c : Char) : Bool :=
  c == ',' || c == '\x7b' || c == '\x7d' || c == '[' || c == ']'

/-- Whether `c` may stand in a key without quotes. -/
def isKeyChar (c : Char) : Bool := c.isAlphanum || c == '_' || c == '-'

/-- The text between double quotes at the front. -/
def quoted? : List Char → Option (List Char × List Char)
  | '"' :: s => Toml.basicLine? (s.length + 1) s
  | _ => none

/-- The number that a word is: a double if it has a point, else a whole number of 64 bits. -/
def number? (w : List Char) : Option Tree :=
  if '.' ∈ w && (readFloat? w).isSome then some (.real (String.ofList w))
  else
    match Text.unsigned64? w with
    | some n => some (.number n.toNat)
    | none => (Text.integer64? w).map fun i => .number i.toInt

def word (w : List Char) : Tree :=
  let w := Text.trim w
  (number? w).getD (.text (String.ofList w))

/-- A key at the front, with the blanks around it. -/
def key? (s : List Char) : Option (String × List Char) :=
  let s := skipSpaces s
  match quoted? s with
  | some (k, s) => some (String.ofList k, skipSpaces s)
  | none =>
    if (s.takeWhile isKeyChar).isEmpty then none
    else some (String.ofList (s.takeWhile isKeyChar), skipSpaces (s.dropWhile isKeyChar))

/-- Sets a key of a table; a second value takes the place of the first. -/
def set (k : String) (t : Tree) (entries : List (String × Tree)) : List (String × Tree) :=
  Tree.alter k (fun _ => t) entries

mutual

/-- A value at the front, with the blanks around it. -/
def valueAt? : (fuel : Nat) → List Char → Option (Tree × List Char)
  | 0, _ => none
  | fuel + 1, s => do
    let (t, s) ← bareValueAt? fuel (skipSpaces s)
    return (t, skipSpaces s)

def bareValueAt? : (fuel : Nat) → List Char → Option (Tree × List Char)
  | 0, _ => none
  | fuel + 1, s =>
    match Text.dropStart? "true".toList s with
    | some s => some (.flag true, s)
    | none =>
    match Text.dropStart? "false".toList s with
    | some s => some (.flag false, s)
    | none =>
    match s with
    | '\x7b' :: s => do
      let (entries, s) ← pairsAt? fuel [] s
      return (.table entries, s)
    | '[' :: s => do
      let (items, s) ← itemsAt? fuel s
      return (.list items, s)
    | '"' :: _ => do
      let (text, s) ← quoted? s
      return (.text (String.ofList text), s)
    | '\'' :: c :: '\'' :: s => some (.text (String.singleton c), s)
    | '\'' :: _ => none
    | s =>
      some (word (s.takeWhile (!isSeparator ·)), s.dropWhile (!isSeparator ·))

/-- The items of a list up to its closing bracket, which may follow a comma. -/
def itemsAt? : (fuel : Nat) → List Char → Option (List Tree × List Char)
  | 0, _ => none
  | fuel + 1, s =>
    match s with
    | ']' :: s => some ([], s)
    | s => do
      let (item, s) ← valueAt? fuel s
      match s with
      | ',' :: s =>
        let (items, s) ← itemsAt? fuel s
        return (item :: items, s)
      | ']' :: s => return ([item], s)
      | _ => none

/-- The entries of a table, added to the ones before, up to its closing brace, which may follow a
comma. -/
def pairsAt? : (fuel : Nat) → List (String × Tree) → List Char →
    Option (List (String × Tree) × List Char)
  | 0, _, _ => none
  | fuel + 1, entries, s =>
    match s with
    | '\x7d' :: s => some (entries, s)
    | s => do
      let (k, s) ← key? s
      let s ← Text.dropStart? ['='] s
      let (t, s) ← valueAt? fuel s
      let entries := set k t entries
      match s with
      | ',' :: s => pairsAt? fuel entries s
      | '\x7d' :: s => return (entries, s)
      | _ => none

end

/-- The tree of a value; a value that is not read to its end is a text. -/
def value (s : String) : Tree :=
  match valueAt? (3 * s.toList.length + 3) s.toList with
  | some (t, []) => t
  | _ => .text s

/-! ## Names -/

/-- The start of the names that count, in lower case. -/
def namePrefix : List Char := "pg_exporter_".toList

/-- What follows the program's prefix in a name, in any case. -/
def dropPrefix? (name : List Char) : Option (List Char) :=
  if namePrefix.isPrefixOf (name.map Text.lowerAscii) then some (name.drop namePrefix.length)
  else none

/-- The name with a point for every two underscores, from left to right. -/
def splitUnderscores : List Char → List Char
  | '_' :: '_' :: s => '.' :: splitUnderscores s
  | c :: s => c :: splitUnderscores s
  | [] => []

/-- The path that a name stands for. A path does not have empty parts. -/
def path? (name : String) : Option (List String) := do
  let rest ← dropPrefix? (Text.trim name.toList)
  let parts := Text.pieces (· == '.') (Text.trim (splitUnderscores rest))
  if parts.any List.isEmpty then none
  else return parts.map fun p => String.ofList (p.map Text.lowerAscii)

/-- A tree with a single value at the end of a path. -/
def nest : List String → Tree → Tree
  | [], t => t
  | k :: path, t => .table [(k, nest path t)]

/-- The tree of a variable that counts. -/
def setting? (name contents : String) : Option Tree := do
  return nest (← path? name) (value contents)

/-- The tree of all variables, in the order of the process. Each is put over those before it. -/
def tree (assigned : List (String × String)) : Tree :=
  (assigned.filterMap fun e => setting? e.1 e.2).foldl Tree.merge (.table [])

/-- The variables, taken together, put over a tree. A section that a variable sets to a value and
another one leads into does not hide what the tree has there. -/
def putOn (base : Tree) (assigned : List (String × String)) : Tree := base.merge (tree assigned)

end PgMetrics.Environment
