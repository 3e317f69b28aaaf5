import PgMetrics.Text.Number
import PgMetrics.Yaml.Node

/-!
# Reading nodes

What is wanted decides how a node is read. Any scalar reads as text. Only plain scalars read as
truth values or counts, and besides them literal blocks that are tagged so. A plain scalar without
text reads as an empty collection. Aliases are looked up as they come, at most a hundred times as
often as the document has marks, so a document cannot grow without bound.

## Main definitions

* `DecodeM`, `DecodeM.run?`.
* `Node.asText`, `Node.asFlag`, `Node.asCount`, `Node.asItems`, `Node.asEntries`, `Node.asRecord`.
-/

namespace PgMetrics.Yaml

/-- A reading of nodes of a document, with the number of look-ups that are left. -/
abbrev DecodeM := ReaderT Document (StateT Nat Option)

def DecodeM.run? {α : Type} (read : Node → DecodeM α) (d : Document) : Option α :=
  (((read d.root).run d).run (100 * d.root.events)).map (·.1)

/-- The truth value of a text. -/
def truth? (s : String) : Option Bool :=
  if s ∈ ["true", "True", "TRUE"] then some true
  else if s ∈ ["false", "False", "FALSE"] then some false
  else none

/-- The number of a text in one of four bases. In decimal a zero may not stand before other
digits. -/
def count? (s : List Char) : Option UInt64 :=
  let s := (Text.dropStart? ['+'] s).getD s
  let value :=
    match s with
    | '0' :: 'x' :: t => Text.numberIn? 16 t
    | '0' :: 'o' :: t => Text.numberIn? 8 t
    | '0' :: 'b' :: t => Text.numberIn? 2 t
    | ['0'] => some 0
    | '0' :: _ => none
    | t => Text.numberIn? 10 t
  (value.filter (· < UInt64.size)).map UInt64.ofNat

namespace Node

/-- The node that an alias stands for; any other node itself. -/
def resolve (n : Node) : DecodeM Node := do
  match n with
  | .alias id =>
    match ← get with
    | 0 => failure
    | left + 1 =>
      set left
      match (← read).target? id with
      | some target => return target
      | none => failure
  | n => return n

/-- Whether a scalar is read by its text, or by the type that its tag says. -/
def isTyped (style : ScalarStyle) (tag : Option String) (type : String) : Bool :=
  match style with
  | .plain => true
  | .literal => tag == some ("tag:yaml.org,2002:" ++ type)
  | _ => false

def asText (n : Node) : DecodeM String := do
  match ← n.resolve with
  | .scalar _ text _ _ => return text
  | _ => failure

/-- A scalar of a type that texts stand for. -/
def asTyped {α : Type} (type : String) (value? : String → Option α) (n : Node) : DecodeM α := do
  match ← n.resolve with
  | .scalar _ text style tag =>
    match if isTyped style tag type then value? text else none with
    | some a => return a
    | none => failure
  | _ => failure

def asFlag : Node → DecodeM Bool := asTyped "bool" truth?

def asCount : Node → DecodeM UInt64 := asTyped "int" fun s => count? s.toList

def asItems {α : Type} (item : Node → DecodeM α) (n : Node) : DecodeM (List α) := do
  match ← n.resolve with
  | .sequence _ items => items.mapM item
  | .scalar _ "" .plain _ => return []
  | _ => failure

/-- The entries of a mapping whose keys are texts. -/
def asEntries {α : Type} (value : Node → DecodeM α) (n : Node) : DecodeM (List (String × α)) := do
  match ← n.resolve with
  | .mapping _ entries => entries.mapM fun e => do return (← e.1.asText, ← value e.2)
  | .scalar _ "" .plain _ => return []
  | _ => failure

/-- The fields of a record by name. Other fields are passed over, and none may come twice. -/
def asRecord (names : List String) (n : Node) : DecodeM (List (String × Node)) := do
  match ← n.resolve with
  | .mapping _ entries =>
    let fields ← entries.mapM fun e => do return (← e.1.asText, e.2)
    let fields := fields.filter fun f => f.1 ∈ names
    if (fields.map (·.1)).Nodup then return fields else failure
  | .scalar _ "" .plain _ => return []
  | _ => failure

/-- A field of a record that may be missing. -/
def field? {α : Type} (fields : List (String × Node)) (name : String) (value : Node → DecodeM α) :
    DecodeM (Option α) :=
  match fields.lookup name with
  | some n => some <$> value n
  | none => return none

end Node

end PgMetrics.Yaml
