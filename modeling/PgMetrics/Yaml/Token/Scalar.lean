import PgMetrics.Text.Number
import PgMetrics.Yaml.Cursor
import PgMetrics.Yaml.Token

/-!
# Scalars

A scalar is plain, quoted, or a block. Plain and quoted scalars may span lines, which are folded;
the lines of a block are kept, or folded where neither of two neighbours is indented further.

## Main definitions

* `Scalar.plain?`, `Scalar.quoted?`, `Scalar.block?`: what begins at a cursor.
-/

namespace PgMetrics.Yaml.Scalar

/-- A scalar that was read and what follows it. -/
structure Found where
  text : List Char
  after : Cursor
  /-- Whether a line ended after the last word, so that a key may follow. -/
  crossed : Bool

/-! ## Plain scalars -/

/-- The words read so far, in reverse, and the gap after them. -/
structure Words where
  reversed : List Char
  gap : Gap

/-- Adds a character after the gap. -/
def Words.add (w : Words) (x : Char) : Words := ⟨x :: (w.gap.text.reverse ++ w.reversed), .none⟩

/-- Whether a plain scalar ends before the next character. -/
def endsPlain (flow : Bool) (c : Cursor) : Bool :=
  (c.sees 0 ':' && c.atWordEnd 1) ||
    (flow && c.seesEndOr (fun x => x ∈ [',', '[', ']', '\x7b', '\x7d']) 0)

/-- Whether a colon stands in a flow collection where it is neither a mark nor part of a word. -/
def straysColon (flow : Bool) (c : Cursor) : Bool :=
  flow && c.sees 0 ':' &&
    match c.peek? 1 with
    | some x => x ∈ [',', '?', '[', ']', '\x7b', '\x7d']
    | none => false

/-- Reads the next word of a plain scalar. -/
def plainWord? (flow : Bool) : (fuel : Nat) → Words → Cursor → Option (Words × Cursor)
  | 0, _, _ => none
  | fuel + 1, w, c =>
    match c.rest with
    | [] => some (w, c)
    | x :: _ =>
      if isWhite x || isBreak x then some (w, c)
      else if straysColon flow c then none
      else if endsPlain flow c then some (w, c)
      else plainWord? flow fuel (w.add x) (c.advance 1)

/-- Reads the words of a plain scalar. Outside of flow collections a line that is indented less
than `indent` ends it. -/
def plainWords? (flow : Bool) (indent : Nat) : (fuel : Nat) → Words → Cursor →
    Option (Words × Cursor)
  | 0, _, _ => none
  | fuel + 1, w, c =>
    if c.atDocumentEdge || c.sees 0 '#' then some (w, c)
    else do
      let (w, c) ← plainWord? flow (fuel + 1) w c
      match c.rest with
      | [] => some (w, c)
      | x :: _ =>
        if isWhite x || isBreak x then
          let (gap, c) ← Gap.read? indent (fuel + 1) .none c
          let w := { w with gap }
          if !flow && c.column < indent then some (w, c)
          else plainWords? flow indent fuel w c
        else some (w, c)

def plain? (flow : Bool) (indent : Nat) (c : Cursor) : Option Found := do
  let (w, c) ← plainWords? flow indent (c.rest.length + 1) ⟨[], .none⟩ c
  return ⟨w.reversed.reverse, c, w.gap.crossed⟩

/-! ## Quoted scalars -/

/-- What a single character after a backslash stands for. -/
def escape? (x : Char) : Option Char :=
  [('0', '\x00'), ('a', '\x07'), ('b', '\x08'), ('t', '\t'), ('\t', '\t'), ('n', '\n'),
    ('v', '\x0b'), ('f', '\x0c'), ('r', '\r'), ('e', '\x1b'), (' ', ' '), ('"', '"'), ('/', '/'),
    ('\\', '\\'), ('N', '\u0085'), ('_', '\u00a0'), ('L', '\u2028'), ('P', '\u2029')].lookup x

/-- The number of hexadecimal digits that follow a letter after a backslash. -/
def escapeDigits? (x : Char) : Option Nat := [('x', 2), ('u', 4), ('U', 8)].lookup x

def readEscape? (c : Cursor) : Option (Char × Cursor) := do
  let x ← c.peek? 1
  match escapeDigits? x with
  | none => return (← escape? x, c.advance 2)
  | some n =>
    let digits := (c.rest.drop 2).take n
    if digits.length = n then
      return (← Text.codePoint? (← Text.numberIn? 16 digits), c.advance (n + 2))
    else none

/-- Reads characters up to a blank, a break, the end of the text or the closing quote. The flag
tells whether an escaped line break ended it. -/
def quotedWord? (quote : Char) : (fuel : Nat) → List Char → Cursor →
    Option (List Char × Bool × Cursor)
  | 0, _, _ => none
  | fuel + 1, reversed, c =>
    match c.rest with
    | [] => some (reversed, false, c)
    | x :: _ =>
      if isWhite x || isBreak x then some (reversed, false, c)
      else if x = quote then
        if quote = '\'' && c.sees 1 '\'' then
          quotedWord? quote fuel ('\'' :: reversed) (c.advance 2)
        else some (reversed, false, c)
      else if x = '\\' && quote = '"' then
        match c.peek? 1 with
        | none => none
        | some y =>
          if isBreak y then some (reversed, true, (c.advance 1).takeBreak.2)
          else do
            let (z, c) ← readEscape? c
            quotedWord? quote fuel (z :: reversed) c
      else quotedWord? quote fuel (x :: reversed) (c.advance 1)

/-- Reads words and gaps up to the closing quote. -/
def quotedWords? (quote : Char) : (fuel : Nat) → List Char → Cursor → Option (List Char × Cursor)
  | 0, _, _ => none
  | fuel + 1, reversed, c =>
    if c.atDocumentEdge || c.rest.isEmpty then none
    else do
      let (reversed, escaped, c) ← quotedWord? quote (fuel + 1) reversed c
      if c.sees 0 quote then return (reversed, c.advance 1)
      else
        let gap := if escaped then Gap.afterEscapedBreak else .none
        let (gap, c) ← Gap.read? 0 (fuel + 1) gap c
        quotedWords? quote fuel (gap.text.reverse ++ reversed) c

def quoted? (quote : Char) (c : Cursor) : Option Found := do
  let (reversed, after) ← quotedWords? quote (c.rest.length + 1) [] (c.advance 1)
  return ⟨reversed.reverse, after, false⟩

/-! ## Block scalars -/

/-- What is done with the line breaks at the end of a block. -/
inductive Chomping where
  | strip | clip | keep
  deriving DecidableEq, Repr

/-- The line above a block. -/
structure BlockHeader where
  chomping : Chomping
  /-- How much further than its surroundings the block is indented, where that is written. -/
  increment : Option Nat

/-- Reads a sign for the chomping. -/
def chomping? (c : Cursor) : Option (Chomping × Cursor) :=
  if c.sees 0 '+' then some (.keep, c.advance 1)
  else if c.sees 0 '-' then some (.strip, c.advance 1)
  else none

/-- Reads an indentation, if one is written. Zero is refused. -/
def increment? (c : Cursor) : Option (Option Nat × Cursor) :=
  match c.peek? 0 with
  | some x =>
    if x = '0' then none
    else if x.isDigit then some (some (x.toNat - 48), c.advance 1)
    else some (none, c)
  | none => some (none, c)

/-- Reads the signs after the bar or the angle, in either order. -/
def header? (c : Cursor) : Option (BlockHeader × Cursor) := do
  match chomping? c with
  | some (chomping, c) =>
    let (increment, c) ← increment? c
    return (⟨chomping, increment⟩, c)
  | none =>
    let (increment, c) ← increment? c
    if increment.isSome then
      let (chomping, c) := (chomping? c).getD (.clip, c)
      return (⟨chomping, increment⟩, c)
    else return (⟨.clip, none⟩, c)

/-- Empty lines that were passed, and the deepest column that was reached on the way. -/
structure EmptyLines where
  breaks : List Char
  deepest : Nat

/-- Passes over indentation and empty lines. Without an indentation that is known every space
belongs to it. -/
def emptyLines? (indent : Option Nat) : (fuel : Nat) → EmptyLines → Cursor →
    Option (EmptyLines × Cursor)
  | 0, _, _ => none
  | fuel + 1, e, c =>
    let spaces := (c.rest.takeWhile (· == ' ')).length
    let c := c.advance (match indent with
      | some n => min spaces (n - c.column)
      | none => spaces)
    let e := { e with deepest := max e.deepest c.column }
    let within := match indent with
      | some n => c.column < n
      | none => true
    if within && c.sees 0 '\t' then none
    else
      match c.rest with
      | x :: _ =>
        if isBreak x then
          let (b, c) := c.takeBreak
          emptyLines? indent fuel { e with breaks := e.breaks ++ b } c
        else some (e, c)
      | [] => some (e, c)

/-- The lines of a block read so far. -/
structure BlockLines where
  reversed : List Char
  /-- The break after the last line. -/
  lastBreak : List Char
  /-- The empty lines after that. -/
  emptyBreaks : List Char
  /-- Whether the last line began with a blank. -/
  indented : Bool

/-- What stands for the breaks between the last line and one that begins with a blank or not. -/
def BlockLines.joint (b : BlockLines) (literal indented : Bool) : List Char :=
  if !literal && b.lastBreak == ['\n'] && !b.indented && !indented then
    (if b.emptyBreaks.isEmpty then [' '] else b.emptyBreaks)
  else b.lastBreak ++ b.emptyBreaks

/-- Reads the lines of a block. -/
def blockLines? (literal : Bool) (indent : Nat) : (fuel : Nat) → BlockLines → Cursor →
    Option (BlockLines × Cursor)
  | 0, _, _ => none
  | fuel + 1, b, c =>
    match c.rest with
    | [] => some (b, c)
    | x :: _ =>
      if c.column ≠ indent then some (b, c)
      else do
        let indented := isWhite x
        let line := c.rest.takeWhile fun y => !isBreak y
        let (lastBreak, next) := (c.advance line.length).takeBreak
        let (e, next) ← emptyLines? (some indent) (fuel + 1) ⟨[], 0⟩ next
        blockLines? literal indent fuel
          ⟨line.reverse ++ ((b.joint literal indented).reverse ++ b.reversed), lastBreak, e.breaks,
            indented⟩ next

/-- The whole text of a block. -/
def BlockLines.text (b : BlockLines) (chomping : Chomping) : List Char :=
  b.reversed.reverse ++
    match chomping with
    | .strip => []
    | .clip => b.lastBreak
    | .keep => b.lastBreak ++ b.emptyBreaks

/-- Reads a block within surroundings that are indented by `outer`, which is negative where nothing
surrounds it. -/
def block? (literal : Bool) (outer : Int) (c : Cursor) : Option Found := do
  let (header, c) ← header? (c.advance 1)
  let c ← c.finishLine?
  let known := header.increment.map fun n => (max outer 0).toNat + n
  let (e, c) ← emptyLines? known (c.rest.length + 1) ⟨[], 0⟩ c
  let indent := known.getD (max (max e.deepest (outer + 1).toNat) 1)
  let (b, c) ← blockLines? literal indent (c.rest.length + 1) ⟨[], [], e.breaks, false⟩ c
  return ⟨b.text header.chomping, c, true⟩

end PgMetrics.Yaml.Scalar
