import PgMetrics.Yaml.Token.Stream

/-!
# Nodes

The tokens of a document form a tree of scalars, sequences and mappings. A node may carry the
number of an anchor, and an alias stands for the node with its number. A text holds at most one
document here.

## Main definitions

* `Node`, `Node.events`, `Node.anchored`.
* `Reader`: the state of the reader, and `Reader.node` with the rules for each kind of node.
* `document?`: the only document of a text, which may be empty.
-/

namespace PgMetrics.Yaml

/-- A node of a document. -/
inductive Node where
  | scalar (anchor : Option Nat) (text : String) (style : ScalarStyle) (tag : Option String)
  | sequence (anchor : Option Nat) (items : List Node)
  | mapping (anchor : Option Nat) (entries : List (Node × Node))
  | alias (target : Nat)

namespace Node

/-- The node of an absent value. -/
def absent : Node := .scalar none "" .plain none

mutual

/-- The number of marks of a node: one for a scalar or an alias, two for a collection, and those of
what it holds. -/
def events : Node → Nat
  | .scalar .. => 1
  | .alias _ => 1
  | .sequence _ items => 2 + eventsOfItems items
  | .mapping _ entries => 2 + eventsOfEntries entries

/-- The marks of the items of a sequence. -/
def eventsOfItems : List Node → Nat
  | [] => 0
  | n :: rest => n.events + eventsOfItems rest

/-- The marks of the entries of a mapping. -/
def eventsOfEntries : List (Node × Node) → Nat
  | [] => 0
  | (k, v) :: rest => k.events + v.events + eventsOfEntries rest

end

/-- A node with the number of its anchor, if it has one. -/
def withAnchor (anchor : Option Nat) (n : Node) : List (Nat × Node) :=
  match anchor with
  | some id => [(id, n)]
  | none => []

mutual

/-- The nodes with anchors, each before those within it. -/
def anchored : Node → List (Nat × Node)
  | .scalar anchor text style tag => withAnchor anchor (.scalar anchor text style tag)
  | .alias _ => []
  | .sequence anchor items => withAnchor anchor (.sequence anchor items) ++ anchoredItems items
  | .mapping anchor entries =>
    withAnchor anchor (.mapping anchor entries) ++ anchoredEntries entries

/-- The nodes with anchors among the items of a sequence. -/
def anchoredItems : List Node → List (Nat × Node)
  | [] => []
  | n :: rest => n.anchored ++ anchoredItems rest

/-- The nodes with anchors among the entries of a mapping. -/
def anchoredEntries : List (Node × Node) → List (Nat × Node)
  | [] => []
  | (k, v) :: rest => k.anchored ++ (v.anchored ++ anchoredEntries rest)

end

end Node

/-- A document. -/
structure Document where
  root : Node

/-- The node that an alias with the given number stands for: the last one that carries it. -/
def Document.target? (d : Document) (id : Nat) : Option Node :=
  (d.root.anchored.reverse.find? fun a => a.1 == id).map (·.2)

/-- What the reader knows between two tokens. -/
structure Reader where
  tokens : List Token
  /-- The names of the anchors so far, each with the number that it stands for now. -/
  anchors : List (String × Nat)
  /-- What the handles of tags stand for. -/
  handles : List (String × String)

/-- A computation of the reader, which may fail. -/
abbrev ReadM := StateT Reader Option

namespace Reader

/-- The handles that need no directive. -/
def standardHandles : List (String × String) := [("!", "!"), ("!!", "tag:yaml.org,2002:")]

/-- The reader before the first token. -/
def start (tokens : List Token) : Reader := ⟨tokens, [], standardHandles⟩

def peek? : ReadM (Option Token) := do return (← get).tokens.head?

def skip : ReadM Unit := modify fun r => { r with tokens := r.tokens.drop 1 }

/-- Moves over the next token if it is `t`, and tells whether it was. -/
def accept (t : Token) : ReadM Bool := do
  if (← peek?) == some t then skip; return true
  else return false

/-- Whether the next token is one of `ts`; the end of the text is none of them. -/
def sees (ts : List Token) : ReadM Bool := do
  match ← peek? with
  | some t => return t ∈ ts
  | none => return false

/-! ## Properties of nodes -/

/-- Names a node. The number is the count of names so far, and a name that comes again stands for
its latest number. -/
def nameNode (name : String) : ReadM Nat := do
  let r ← get
  let id := r.anchors.length
  set { r with anchors := (name, id) :: r.anchors.filter fun a => a.1 != name }
  return id

/-- The full name of a tag. -/
def resolveTag (t : TagToken) : ReadM String := do
  if t.handle.isEmpty then return t.suffix
  else
    match (← get).handles.lookup t.handle with
    | some start => return start ++ t.suffix
    | none => failure

/-- What stands before a node. -/
structure Properties where
  anchor : Option Nat
  tag : Option String

def Properties.isEmpty (p : Properties) : Bool := p.anchor.isNone && p.tag.isNone

/-- Reads an anchor, if one is there. -/
def anchor? : ReadM (Option String) := do
  match ← peek? with
  | some (.anchor name) => skip; return some name
  | _ => return none

/-- Reads a tag, if one is there. -/
def tag? : ReadM (Option String) := do
  match ← peek? with
  | some (.tag t) => skip; return some (← resolveTag t)
  | _ => return none

/-- Reads an anchor and a tag in either order, where they are there. -/
def properties : ReadM Properties := do
  let first ← anchor?
  let tag ← tag?
  let name ← if first.isNone && tag.isSome then anchor? else pure first
  return ⟨← name.mapM nameNode, tag⟩

/-! ## Nodes -/

/-- Reads a node by `read`, or finds it absent where one of `ts` comes next. -/
def orAbsent (ts : List Token) (read : ReadM Node) : ReadM Node := do
  if ← sees ts then return .absent else read

mutual

/-- Reads a node. Blocks may begin only where `block` says so, and a sequence without an
indentation of its own where `loose` does. -/
def node (block loose : Bool) : (fuel : Nat) → ReadM Node
  | 0 => failure
  | fuel + 1 => do
    match ← peek? with
    | some (.alias name) =>
      skip
      match (← get).anchors.lookup name with
      | some id => return .alias id
      | none => failure
    | _ =>
      let p ← properties
      match ← peek? with
      | some (.scalar text style) => skip; return .scalar p.anchor text style p.tag
      | some .flowSequenceStart => skip; return .sequence p.anchor (← flowItems true fuel)
      | some .flowMappingStart => skip; return .mapping p.anchor (← flowEntries true fuel)
      | t =>
        if loose && t == some .blockEntry then return .sequence p.anchor (← looseItems fuel)
        else if block && t == some .blockSequenceStart then
          skip
          return .sequence p.anchor (← blockItems fuel)
        else if block && t == some .blockMappingStart then
          skip
          return .mapping p.anchor (← blockEntries fuel)
        else if p.isEmpty then failure
        else return .scalar p.anchor "" .plain p.tag

/-- Reads the items of a block sequence to its end. -/
def blockItems : (fuel : Nat) → ReadM (List Node)
  | 0 => failure
  | fuel + 1 => do
    if ← accept .blockEntry then
      let item ← orAbsent [.blockEntry, .blockEnd] (node true false fuel)
      return item :: (← blockItems fuel)
    else if ← accept .blockEnd then return []
    else failure

/-- Reads the items of a sequence that stands in the column of the keys around it. -/
def looseItems : (fuel : Nat) → ReadM (List Node)
  | 0 => failure
  | fuel + 1 => do
    if ← accept .blockEntry then
      let item ← orAbsent [.blockEntry, .key, .value, .blockEnd] (node true false fuel)
      return item :: (← looseItems fuel)
    else return []

/-- Reads the entries of a block mapping to its end. -/
def blockEntries : (fuel : Nat) → ReadM (List (Node × Node))
  | 0 => failure
  | fuel + 1 => do
    if ← accept .key then
      let key ← orAbsent [.key, .value, .blockEnd] (node true true fuel)
      let value ← blockValue fuel
      return (key, value) :: (← blockEntries fuel)
    else if ← accept .blockEnd then return []
    else failure

/-- Reads the value of an entry of a block mapping. -/
def blockValue : (fuel : Nat) → ReadM Node
  | 0 => failure
  | fuel + 1 => do
    if ← accept .value then orAbsent [.key, .value, .blockEnd] (node true true fuel)
    else return .absent

/-- Reads the items of a flow sequence to its end. -/
def flowItems (first : Bool) : (fuel : Nat) → ReadM (List Node)
  | 0 => failure
  | fuel + 1 => do
    if ← accept .flowSequenceEnd then return []
    else
      let comma ← if first then pure true else accept .flowEntry
      if !comma then failure
      else if ← accept .flowSequenceEnd then return []
      else if ← accept .key then
        let pair ← flowPair fuel
        return .mapping none [pair] :: (← flowItems false fuel)
      else
        let item ← node false false fuel
        return item :: (← flowItems false fuel)

/-- Reads a key and a value that are an item of a flow sequence. Where the key is absent the mark
after it is passed over. -/
def flowPair : (fuel : Nat) → ReadM (Node × Node)
  | 0 => failure
  | fuel + 1 => do
    let key ←
      if ← sees [.value, .flowEntry, .flowSequenceEnd] then do skip; pure Node.absent
      else node false false fuel
    let value ←
      if ← accept .value then orAbsent [.flowEntry, .flowSequenceEnd] (node false false fuel)
      else pure .absent
    return (key, value)

/-- Reads the entries of a flow mapping to its end. -/
def flowEntries (first : Bool) : (fuel : Nat) → ReadM (List (Node × Node))
  | 0 => failure
  | fuel + 1 => do
    if ← accept .flowMappingEnd then return []
    else
      let comma ← if first then pure true else accept .flowEntry
      if !comma then failure
      else if ← accept .flowMappingEnd then return []
      else
        let entry ← flowEntry fuel
        return entry :: (← flowEntries false fuel)

/-- Reads an entry of a flow mapping. A node without a key mark has no value. -/
def flowEntry : (fuel : Nat) → ReadM (Node × Node)
  | 0 => failure
  | fuel + 1 => do
    if ← accept .key then
      let key ← orAbsent [.value, .flowEntry, .flowMappingEnd] (node false false fuel)
      let value ←
        if ← accept .value then orAbsent [.flowEntry, .flowMappingEnd] (node false false fuel)
        else pure .absent
      return (key, value)
    else
      let key ← node false false fuel
      return (key, .absent)

end

/-! ## Documents -/

/-- Reads the directives above a document: at most one version, which is 1.1 or 1.2, and no handle
twice. -/
def directives (versioned : Bool) (given : List String) : (fuel : Nat) → ReadM Unit
  | 0 => failure
  | fuel + 1 => do
    match ← peek? with
    | some (.versionDirective major minor) =>
      if versioned || major != 1 || (minor != 1 && minor != 2) then failure
      else
        skip
        directives true given fuel
    | some (.tagDirective handle start) =>
      if handle ∈ given then failure
      else
        skip
        modify fun r => { r with handles := (handle, start) :: r.handles }
        directives versioned (handle :: given) fuel
    | _ => return ()

/-- Reads the node of a document after its mark, if it has one. -/
def content (fuel : Nat) : ReadM Node := do
  match ← peek? with
  | none => return .absent
  | some (.versionDirective ..) => return .absent
  | some (.tagDirective ..) => return .absent
  | some .documentStart => return .absent
  | some .documentEnd => return .absent
  | some _ => node true false fuel

/-- Moves over the marks that end a document. -/
def skipEnds : (fuel : Nat) → ReadM Unit
  | 0 => failure
  | fuel + 1 => do
    if ← accept .documentEnd then skipEnds fuel
    else return ()

/-- Reads the only document of a text. The text may be empty. -/
def text (fuel : Nat) : ReadM Document := do
  if (← peek?).isNone then return ⟨.absent⟩
  else
    let explicit ← sees [.documentStart]
    let directed := match ← peek? with
      | some (.versionDirective ..) => true
      | some (.tagDirective ..) => true
      | _ => false
    let root ←
      if explicit || directed then do
        directives false [] fuel
        if ← accept .documentStart then content fuel else failure
      else node true false fuel
    skipEnds fuel
    if (← peek?).isNone then return ⟨root⟩ else failure

end Reader

/-- The only document of a text. -/
def document? (text : List Char) : Option Document := do
  let tokens ← tokens? text
  let fuel := 4 * tokens.length + 8
  let (d, _) ← (Reader.text fuel).run (.start tokens)
  return d

end PgMetrics.Yaml
