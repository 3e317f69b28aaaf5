import PgMetrics.Text.Number

/-!
# JSON text

The form of JSON in which every member and every item stands on a line of its own, indented by two
spaces a level.

## Main definitions

* `Json`: values, with members in a fixed order.
* `Json.render`: the text of a value.
-/

namespace PgMetrics.Text

/-- A JSON value. -/
inductive Json where
  | text (s : String)
  | flag (b : Bool)
  | number (n : Nat)
  | list (items : List Json)
  | object (members : List (String × Json))

namespace Json

/-- A control character in four hexadecimal digits. -/
def control (c : Char) : List Char :=
  let digits := Nat.toDigits 16 c.toNat
  '\\' :: 'u' :: (List.replicate (4 - digits.length) '0' ++ digits)

def escaped (c : Char) : List Char :=
  match [('"', '"'), ('\\', '\\'), ('\x08', 'b'), ('\x0c', 'f'), ('\n', 'n'), ('\r', 'r'),
      ('\t', 't')].lookup c with
  | some letter => ['\\', letter]
  | none => if c.toNat < 0x20 then control c else [c]

def string (s : String) : List Char := '"' :: (s.toList.flatMap escaped ++ ['"'])

/-- The start of a line at a level. -/
def newLine (level : Nat) : List Char := '\n' :: List.replicate (2 * level) ' '

/-- Parts between brackets, each on a line of its own. -/
def enclose (left right : Char) (level : Nat) (parts : List (List Char)) : List Char :=
  if parts.isEmpty then [left, right]
  else
    let lines := parts.map fun p => newLine (level + 1) ++ p
    left :: ((lines.intersperse [',']).flatten ++ newLine level ++ [right])

mutual

/-- The text of a value at a level. -/
def chars (level : Nat) : Json → List Char
  | .text s => string s
  | .flag b => (if b then "true" else "false").toList
  | .number n => decimal n
  | .list items => enclose '[' ']' level (itemChars (level + 1) items)
  | .object members => enclose '\x7b' '\x7d' level (memberChars (level + 1) members)

def itemChars (level : Nat) : List Json → List (List Char)
  | [] => []
  | j :: rest => chars level j :: itemChars level rest

def memberChars (level : Nat) : List (String × Json) → List (List Char)
  | [] => []
  | (k, j) :: rest => (string k ++ ':' :: ' ' :: chars level j) :: memberChars level rest

end

def render (j : Json) : String := String.ofList (j.chars 0)

end Json

end PgMetrics.Text
