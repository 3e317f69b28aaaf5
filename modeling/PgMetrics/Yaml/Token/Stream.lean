import PgMetrics.Yaml.Token.Property

/-!
# The tokens of a text

Indentation opens and closes blocks, and a colon turns what stands before it on the line into a
key. Both put marks into the sequence of tokens that the text does not show: blocks are opened and
closed as the column changes, and a key mark is put in front of a node once its colon is found.

## Main definitions

* `Scanner`: the state between two tokens.
* `Scanner.token?`: the next token.
* `tokens?`: all tokens of a text.
-/

namespace PgMetrics.Yaml

/-- A node that may turn out to be a key. -/
structure KeyCandidate where
  /-- Whether nothing but a key may stand here. -/
  required : Bool
  /-- The number of tokens before it. -/
  token : Nat
  index : Nat
  line : Nat
  column : Nat

/-- What is known between two tokens. -/
structure Scanner where
  cursor : Cursor
  tokens : Array Token
  /-- The column of the innermost block, negative outside of all blocks. -/
  indent : Int
  /-- The columns of the blocks around it. -/
  outer : List Int
  /-- Whether a key without a mark may begin here. -/
  keyAllowed : Bool
  /-- The candidate for a key on each level of flow collections, the innermost first. -/
  candidates : List (Option KeyCandidate)

namespace Scanner

def start (text : List Char) : Scanner := ⟨.start text, #[], -1, [], true, [none]⟩

/-- Whether the cursor is in a flow collection. -/
def inFlow (s : Scanner) : Bool := 1 < s.candidates.length

def emit (s : Scanner) (t : Token) : Scanner := { s with tokens := s.tokens.push t }

/-- Adds a token and moves over the `n` characters that it spans. -/
def emitOver (s : Scanner) (t : Token) (n : Nat) : Scanner :=
  { s.emit t with cursor := s.cursor.advance n }

/-- Puts a token before those from number `n` on. -/
def emitAt (s : Scanner) (t : Token) (n : Nat) : Scanner :=
  { s with tokens := s.tokens.extract 0 n ++ #[t] ++ s.tokens.extract n s.tokens.size }

/-- Says whether a key may follow. -/
def allowKey (s : Scanner) (allowed : Bool) : Scanner := { s with keyAllowed := allowed }

/-! ## Blanks -/

/-- Moves to the next token. In a block a tab may not stand where a key may begin. -/
def skipBlanks : (fuel : Nat) → Scanner → Scanner
  | 0, s => s
  | fuel + 1, s =>
    let c := s.cursor
    let c := if c.column = 0 ∧ c.sees 0 '\uFEFF' then c.advance 1 else c
    let c := c.skipWhile fun x => x == ' ' || ((s.inFlow || !s.keyAllowed) && x == '\t')
    let c := c.skipComment
    if c.rest.isEmpty || !c.atLineEnd then { s with cursor := c }
    else skipBlanks fuel { s with cursor := c.takeBreak.2, keyAllowed := s.keyAllowed || !s.inFlow }

/-! ## Blocks -/

/-- Closes the blocks that are indented further than `column`. -/
def closeBlocks (column : Int) (s : Scanner) : Scanner :=
  if s.inFlow then s
  else
    let columns := s.indent :: s.outer
    let closed := (columns.takeWhile fun i => column < i).length
    let tokens := s.tokens ++ Array.replicate closed Token.blockEnd
    match columns.drop closed with
    | i :: outer => { s with tokens, indent := i, outer }
    | [] => { s with tokens, indent := -1, outer := [] }

/-- Opens a block at `column`, unless one is open there, with its mark before token number `n`. -/
def openBlock (column : Nat) (mark : Token) (n : Nat) (s : Scanner) : Scanner :=
  if s.inFlow || Int.ofNat column ≤ s.indent then s
  else { s.emitAt mark n with indent := column, outer := s.indent :: s.outer }

/-! ## Keys -/

/-- Whether a candidate can no longer become a key: its line has ended, or it is longer than 1024
octets. -/
def KeyCandidate.isStale (k : KeyCandidate) (c : Cursor) : Bool :=
  k.line < c.line || k.index + 1024 < c.index

/-- Gives up the candidates that can no longer become keys. -/
def dropStale? (s : Scanner) : Option Scanner := do
  let candidates ← s.candidates.mapM fun k? =>
    match k? with
    | none => some none
    | some k =>
      if KeyCandidate.isStale k s.cursor then (if k.required then none else some none)
      else some (some k)
  return { s with candidates }

/-- Sets the candidate of the innermost level. -/
def setCandidate (s : Scanner) (k : Option KeyCandidate) : Scanner :=
  { s with candidates := k :: s.candidates.drop 1 }

/-- The candidate of the innermost level. -/
def candidate? (s : Scanner) : Option KeyCandidate := s.candidates.head?.join

/-- Gives up the candidate of the innermost level. -/
def dropCandidate? (s : Scanner) : Option Scanner :=
  match s.candidate? with
  | some k => if k.required then none else some (s.setCandidate none)
  | none => some (s.setCandidate none)

/-- Makes what begins here a candidate, if a key may begin here. -/
def markCandidate? (s : Scanner) : Option Scanner :=
  if s.keyAllowed then do
    let s ← s.dropCandidate?
    let c := s.cursor
    return s.setCandidate (some
      ⟨!s.inFlow && s.indent == Int.ofNat c.column, s.tokens.size, c.index, c.line, c.column⟩)
  else some s

/-! ## Tokens -/

/-- A directive or an edge of a document, which closes all blocks. -/
def edge? (s : Scanner) : Option Scanner := do
  let s ← (s.closeBlocks (-1)).dropCandidate?
  return s.allowKey false

/-- The start of a flow collection. -/
def openFlow? (t : Token) (s : Scanner) : Option Scanner := do
  let s ← s.markCandidate?
  return ({ s with candidates := none :: s.candidates }.allowKey true).emitOver t 1

/-- The end of a flow collection. -/
def closeFlow? (t : Token) (s : Scanner) : Option Scanner := do
  let s ← s.dropCandidate?
  let s := if s.inFlow then { s with candidates := s.candidates.drop 1 } else s
  return (s.allowKey false).emitOver t 1

/-- A comma in a flow collection. -/
def flowEntry? (s : Scanner) : Option Scanner := do
  let s ← s.dropCandidate?
  return (s.allowKey true).emitOver .flowEntry 1

/-- Opens a block here, where a block may begin. -/
def openHere? (mark : Token) (s : Scanner) : Option Scanner :=
  if s.inFlow then some s
  else if s.keyAllowed then some (s.openBlock s.cursor.column mark s.tokens.size)
  else none

def blockEntry? (s : Scanner) : Option Scanner := do
  let s ← (← s.openHere? .blockSequenceStart).dropCandidate?
  return (s.allowKey true).emitOver .blockEntry 1

/-- A question mark before a key. -/
def key? (s : Scanner) : Option Scanner := do
  let s ← (← s.openHere? .blockMappingStart).dropCandidate?
  return (s.allowKey !s.inFlow).emitOver .key 1

def value? (s : Scanner) : Option Scanner := do
  match s.candidate? with
  | some k =>
    let s := (s.emitAt .key k.token).openBlock k.column .blockMappingStart k.token
    return ((s.setCandidate none).allowKey false).emitOver .value 1
  | none =>
    let s ← s.openHere? .blockMappingStart
    return (s.allowKey !s.inFlow).emitOver .value 1

/-- A node, or a property of one, that was read by `read?`. -/
def nodePart? {α : Type} (read? : Cursor → Option (α × Cursor)) (token : α → Token)
    (s : Scanner) : Option Scanner := do
  let s ← s.markCandidate?
  let (x, cursor) ← read? s.cursor
  return { (s.allowKey false).emit (token x) with cursor }

def scalar? (read? : Cursor → Option Scalar.Found) (style : ScalarStyle) (s : Scanner) :
    Option Scanner := do
  let s ← s.markCandidate?
  let found ← read? s.cursor
  return { (s.allowKey found.crossed).emit (.scalar (String.ofList found.text) style) with
    cursor := found.after }

def block? (literal : Bool) (s : Scanner) : Option Scanner := do
  let s ← s.dropCandidate?
  let found ← Scalar.block? literal s.indent s.cursor
  let style := if literal then ScalarStyle.literal else .folded
  return { (s.allowKey true).emit (.scalar (String.ofList found.text) style) with
    cursor := found.after }

/-- Whether a plain scalar may begin here. -/
def startsPlain (s : Scanner) : Bool :=
  match s.cursor.peek? 0 with
  | none => false
  | some x =>
    if x = '-' then
      match s.cursor.peek? 1 with
      | some y => !isWhite y
      | none => true
    else if x = '?' ∨ x = ':' then !s.inFlow && !s.cursor.atWordEnd 1
    else !(isWhite x || isBreak x ||
      x ∈ [',', '[', ']', '\x7b', '\x7d', '#', '&', '*', '!', '|', '>', '\'', '"', '%', '@',
        '\x60'])

/-- The token that begins with the character `x`. -/
def token? (x : Char) (s : Scanner) : Option Scanner :=
  let c := s.cursor
  if c.column = 0 ∧ x = '%' then do
    let s ← s.edge?
    let (t, cursor) ← Property.directive? s.cursor
    return { s.emit t with cursor }
  else if c.atDocumentMark '-' then do return (← s.edge?).emitOver .documentStart 3
  else if c.atDocumentMark '.' then do return (← s.edge?).emitOver .documentEnd 3
  else if x = '[' then s.openFlow? .flowSequenceStart
  else if x = '\x7b' then s.openFlow? .flowMappingStart
  else if x = ']' then s.closeFlow? .flowSequenceEnd
  else if x = '\x7d' then s.closeFlow? .flowMappingEnd
  else if x = ',' then s.flowEntry?
  else if x = '-' ∧ c.atWordEnd 1 then s.blockEntry?
  else if x = '?' ∧ (s.inFlow ∨ c.atWordEnd 1) then s.key?
  else if x = ':' ∧ (s.inFlow ∨ c.atWordEnd 1) then s.value?
  else if x = '*' then s.nodePart? Property.name? .alias
  else if x = '&' then s.nodePart? Property.name? .anchor
  else if x = '!' then s.nodePart? (Property.tag? s.inFlow) .tag
  else if x = '|' ∧ !s.inFlow then s.block? true
  else if x = '>' ∧ !s.inFlow then s.block? false
  else if x = '\'' then s.scalar? (Scalar.quoted? '\'') .singleQuoted
  else if x = '"' then s.scalar? (Scalar.quoted? '"') .doubleQuoted
  else if s.startsPlain then
    s.scalar? (Scalar.plain? s.inFlow (s.indent + 1).toNat) .plain
  else none

/-- Reads tokens to the end of the text. -/
def run? : (fuel : Nat) → Scanner → Option (List Token)
  | 0, _ => none
  | fuel + 1, s => do
    let s := s.skipBlanks (fuel + 1)
    let s ← s.dropStale?
    let s := s.closeBlocks s.cursor.column
    match s.cursor.rest with
    | [] => return (← s.edge?).tokens.toList
    | x :: _ => run? fuel (← s.token? x)

end Scanner

/-- The tokens of a text, if it is one of printable characters and its marks are in place. -/
def tokens? (text : List Char) : Option (List Token) :=
  if text.all isPrintable then (Scanner.start text).run? (text.length + 1) else none

end PgMetrics.Yaml
