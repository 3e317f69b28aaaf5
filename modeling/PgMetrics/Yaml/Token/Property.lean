import PgMetrics.Text.Number
import PgMetrics.Yaml.Token.Scalar

/-!
# Anchors, tags and directives

An anchor names a node and an alias stands for the node that is named. A tag names a type, in full
or through a handle. Directives stand above a document and say which version of the language it is
in and what the handles of its tags stand for.

## Main definitions

* `Property.name?`, `Property.tag?`, `Property.directive?`: what begins at a cursor.
-/

namespace PgMetrics.Yaml.Property

/-- Reads the name of an anchor or an alias after its sign. -/
def name? (c : Cursor) : Option (String × Cursor) :=
  let c := c.advance 1
  let name := c.rest.takeWhile isNameChar
  let after := c.advance name.length
  let ends := after.seesEndOr
    (fun x => isWhite x || isBreak x || x ∈ ['?', ':', ',', ']', '\x7d', '%', '@', '\x60']) 0
  if name.isEmpty || !ends then none else some (String.ofList name, after)

/-! ## Tags -/

/-- Whether `x` may stand in a tag; in a tag between angles a few more characters may. -/
def isTagChar (verbatim : Bool) (x : Char) : Bool :=
  isNameChar x ||
    x ∈ [';', '/', '?', ':', '@', '&', '=', '+', '$', '.', '%', '!', '~', '*', '\'', '(', ')'] ||
    (verbatim && x ∈ [',', '[', ']'])

/-- The octet that a percent sign and two hexadecimal digits stand for. -/
def escapedOctet? (c : Cursor) : Option Nat := do
  if c.sees 0 '%' then
    return 16 * (← Text.hexDigit? (← c.peek? 1)) + (← Text.hexDigit? (← c.peek? 2))
  else none

/-- The number of octets of the UTF-8 sequence that an octet starts. -/
def sequenceLength? (octet : Nat) : Option Nat :=
  if octet < 0x80 then some 1
  else if octet / 0x20 = 0x6 then some 2
  else if octet / 0x10 = 0xE then some 3
  else if octet / 0x08 = 0x1E then some 4
  else none

/-- Reads `n` escaped octets that continue a sequence. -/
def continuation? : (n : Nat) → Cursor → Option (List Char × Cursor)
  | 0, c => some ([], c)
  | n + 1, c => do
    let octet ← escapedOctet? c
    if octet / 0x40 = 0x2 then
      let (octets, c) ← continuation? n (c.advance 3)
      return (Char.ofNat octet :: octets, c)
    else none

/-- Reads one escaped character, octet by octet. -/
def escaped? (c : Cursor) : Option (List Char × Cursor) := do
  let octet ← escapedOctet? c
  let length ← sequenceLength? octet
  let (octets, c) ← continuation? (length - 1) (c.advance 3)
  return (Char.ofNat octet :: octets, c)

def tagChars? (verbatim : Bool) : (fuel : Nat) → Cursor → Option (List Char × Cursor)
  | 0, _ => none
  | fuel + 1, c =>
    match c.rest with
    | [] => some ([], c)
    | x :: _ =>
      if x = '%' then do
        let (octets, c) ← escaped? c
        let (others, c) ← tagChars? verbatim fuel c
        return (octets ++ others, c)
      else if isTagChar verbatim x then do
        let (others, c) ← tagChars? verbatim fuel (c.advance 1)
        return (x :: others, c)
      else some ([], c)

/-- Reads a non-empty run of characters of a tag. -/
def tagText? (verbatim : Bool) (c : Cursor) : Option (List Char × Cursor) := do
  let (text, after) ← tagChars? verbatim (c.rest.length + 1) c
  if text.isEmpty then none else return (text, after)

/-- Reads what may be a handle: an exclamation mark, a name, and a second mark, if there is one. -/
def handle? (c : Cursor) : Option (List Char × Cursor) :=
  if c.sees 0 '!' then
    let name := (c.rest.drop 1).takeWhile isNameChar
    let c := c.advance (name.length + 1)
    if c.sees 0 '!' then some ('!' :: (name ++ ['!']), c.advance 1) else some ('!' :: name, c)
  else none

/-- Whether a text is a handle with two marks. -/
def isHandle (s : List Char) : Bool := 1 < s.length && s.getLast? == some '!'

def verbatimTag? (c : Cursor) : Option (TagToken × Cursor) := do
  let (text, c) ← tagText? true (c.advance 2)
  if c.sees 0 '>' then return (⟨"", String.ofList text⟩, c.advance 1) else none

/-- Reads a tag that may have a handle. A single mark is a tag of its own. -/
def shortTag? (c : Cursor) : Option (TagToken × Cursor) := do
  let (start, after) ← handle? c
  if isHandle start then
    let (suffix, after) ← tagText? false after
    return (⟨String.ofList start, String.ofList suffix⟩, after)
  else
    let (more, after) ← tagChars? false (after.rest.length + 1) after
    let suffix := start.drop 1 ++ more
    if suffix.isEmpty then return (⟨"", "!"⟩, after)
    else return (⟨"!", String.ofList suffix⟩, after)

/-- Reads a tag. A blank, the end of the line, or a comma in a flow collection follows it. -/
def tag? (flow : Bool) (c : Cursor) : Option (TagToken × Cursor) := do
  let (t, c) ← if c.sees 1 '<' then verbatimTag? c else shortTag? c
  if c.atWordEnd 0 || (flow && c.sees 0 ',') then return (t, c) else none

/-! ## Directives -/

/-- Reads a number of at most nine digits. -/
def directiveNumber? (c : Cursor) : Option (Nat × Cursor) :=
  let digits := c.rest.takeWhile Char.isDigit
  if digits.length ≤ 9 then
    (Text.natural? digits).map fun n => (n, c.advance digits.length)
  else none

/-- Reads the version after the name of its directive. -/
def version? (c : Cursor) : Option (Token × Cursor) := do
  let (major, c) ← directiveNumber? (c.skipWhile isWhite)
  if c.sees 0 '.' then
    let (minor, c) ← directiveNumber? (c.advance 1)
    return (.versionDirective major minor, c)
  else none

/-- Reads a handle and what it stands for. -/
def tagDirective? (c : Cursor) : Option (Token × Cursor) := do
  let (handle, c) ← handle? (c.skipWhile isWhite)
  let blank := match c.peek? 0 with
    | some x => isWhite x
    | none => false
  if blank && (isHandle handle || handle == ['!']) then
    let (start, c) ← tagText? true (c.skipWhile isWhite)
    if c.atWordEnd 0 then
      return (.tagDirective (String.ofList handle) (String.ofList start), c)
    else none
  else none

/-- Reads a directive with its line. There are two kinds. -/
def directive? (c : Cursor) : Option (Token × Cursor) := do
  let c := c.advance 1
  let name := c.rest.takeWhile isNameChar
  let c := c.advance name.length
  if c.atWordEnd 0 then
    let (token, c) ← match String.ofList name with
      | "YAML" => version? c
      | "TAG" => tagDirective? c
      | _ => none
    return (token, ← c.finishLine?)
  else none

end PgMetrics.Yaml.Property
