import PgMetrics.Text.Number

/-!
# Quoted strings of TOML

A string stands between double or between single quotes; only the first kind has escapes. Three
quotes open a string that may go over several lines: a line break right after them does not count,
and up to two quotes may stand before the three that close it. Any line break in such a string is
a line feed.

## Main definitions

* `isPlain`, `isSpace`, `dropBreak?`: the characters of a document.
* `string?`: the string at the front of a text, whichever of the four forms it has.
* `quotedKey?`: a quoted key, which stands on one line.
-/

namespace PgMetrics.Toml

/-- Whether `c` may stand in comments and strings: no control character but the tab. -/
def isPlain (c : Char) : Bool := c == '\t' || (0x20 ≤ c.toNat && c.toNat != 0x7F)

/-- Whether `c` is a space or a tab. -/
def isSpace (c : Char) : Bool := c == ' ' || c == '\t'

/-- What follows the line break at the front. -/
def dropBreak? : List Char → Option (List Char)
  | '\n' :: s => some s
  | '\r' :: '\n' :: s => some s
  | _ => none

/-- What follows the spaces and line breaks at the front. -/
def skipLines : List Char → List Char
  | [] => []
  | '\r' :: '\n' :: s => skipLines s
  | c :: s => if isSpace c || c == '\n' then skipLines s else c :: s

/-! ## Escapes -/

/-- The character that hexadecimal digits at the front stand for. -/
def codePoint? (digits : Nat) (s : List Char) : Option (Char × List Char) :=
  if (s.take digits).length = digits then do
    return (← Text.codePoint? (← Text.numberIn? 16 (s.take digits)), s.drop digits)
  else none

/-- The character that an escape stands for, given what follows the backslash. -/
def escape? : List Char → Option (Char × List Char)
  | 'b' :: s => some ('\x08', s)
  | 't' :: s => some ('\t', s)
  | 'n' :: s => some ('\n', s)
  | 'f' :: s => some ('\x0c', s)
  | 'r' :: s => some ('\r', s)
  | '"' :: s => some ('"', s)
  | '\\' :: s => some ('\\', s)
  | 'u' :: s => codePoint? 4 s
  | 'U' :: s => codePoint? 8 s
  | _ => none

/-! ## The four forms, each from behind its opening quotes -/

/-- A string with escapes on one line. -/
def basicLine? : (fuel : Nat) → List Char → Option (List Char × List Char)
  | 0, _ => none
  | _, [] => none
  | _, '"' :: s => some ([], s)
  | fuel + 1, '\\' :: s => do
    let (c, s) ← escape? s
    let (text, s) ← basicLine? fuel s
    return (c :: text, s)
  | fuel + 1, c :: s =>
    if isPlain c then do
      let (text, s) ← basicLine? fuel s
      return (c :: text, s)
    else none

/-- A string without escapes on one line. -/
def literalLine? : List Char → Option (List Char × List Char)
  | [] => none
  | '\'' :: s => some ([], s)
  | c :: s =>
    if isPlain c then do
      let (text, s) ← literalLine? s
      return (c :: text, s)
    else none

/-- The quotes that belong to a string although its three closing quotes were seen: up to two more
make them the last of the run. -/
def closing (quote : Char) : List Char → List Char × List Char
  | a :: b :: s =>
    if a = quote ∧ b = quote then ([quote, quote], s)
    else if a = quote then ([quote], b :: s)
    else ([], a :: b :: s)
  | [a] => if a = quote then ([quote], []) else ([], [a])
  | [] => ([], [])

/-- A string with escapes over several lines. A backslash at the end of a line takes away the line
break and the blanks that follow. -/
def basicLines? : (fuel : Nat) → List Char → Option (List Char × List Char)
  | 0, _ => none
  | _, [] => none
  | _, '"' :: '"' :: '"' :: s => some (closing '"' s)
  | fuel + 1, '\\' :: s =>
    match dropBreak? (s.dropWhile isSpace) with
    | some s => basicLines? fuel (skipLines s)
    | none => do
      let (c, s) ← escape? s
      let (text, s) ← basicLines? fuel s
      return (c :: text, s)
  | fuel + 1, c :: s =>
    match dropBreak? (c :: s) with
    | some s => do
      let (text, s) ← basicLines? fuel s
      return ('\n' :: text, s)
    | none =>
      if isPlain c then do
        let (text, s) ← basicLines? fuel s
        return (c :: text, s)
      else none

/-- A string without escapes over several lines. -/
def literalLines? : List Char → Option (List Char × List Char)
  | [] => none
  | '\'' :: '\'' :: '\'' :: s => some (closing '\'' s)
  | '\r' :: '\n' :: s => do
    let (text, s) ← literalLines? s
    return ('\n' :: text, s)
  | c :: s =>
    if c == '\n' || isPlain c then do
      let (text, s) ← literalLines? s
      return (c :: text, s)
    else none

/-! ## The front of a text -/

/-- The text without a line break at its front. -/
def skipBreak (s : List Char) : List Char := (dropBreak? s).getD s

/-- The string at the front of a text. -/
def string? : List Char → Option (List Char × List Char)
  | '"' :: '"' :: '"' :: s => basicLines? (s.length + 1) (skipBreak s)
  | '"' :: s => basicLine? (s.length + 1) s
  | '\'' :: '\'' :: '\'' :: s => literalLines? (skipBreak s)
  | '\'' :: s => literalLine? s
  | _ => none

/-- The quoted key at the front of a text. -/
def quotedKey? : List Char → Option (List Char × List Char)
  | '"' :: s => basicLine? (s.length + 1) s
  | '\'' :: s => literalLine? s
  | _ => none

end PgMetrics.Toml
