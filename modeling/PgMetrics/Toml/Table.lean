import PgMetrics.Config.Tree

/-!
# Tables of TOML while they are filled

A document fills its tables step by step, and how a table came to be decides what may still be
added. A path in a header makes the tables on its way, and each of them may get a header of its own
later, once. A dotted key makes the tables on its way too, and only dotted keys of the same table
add to those. A value is closed.

## Main definitions

* `Item`, `Item.toTree`: an entry of a table that is being filled, and the tree that it becomes.
* `within?`: changes the table at the end of a path.
* `addPair?`, `openTable?`, `openSeries?`: the three steps that fill tables.
-/

namespace PgMetrics.Toml

/-- How a table came to be. -/
inductive Standing where
  /-- On the way of a header. -/
  | implied
  /-- On the way of a dotted key. -/
  | dotted
  /-- By a header of its own. -/
  | headed
  deriving DecidableEq

/-- An entry of a table. -/
inductive Item where
  | value (t : Tree)
  | table (standing : Standing) (entries : List (String × Item))
  /-- Tables under one name; the last is the one that is filled. -/
  | series (tables : List (List (String × Item)))

abbrev Entries := List (String × Item)

mutual

def Item.toTree : Item → Tree
  | .value t => t
  | .table _ entries => .table (entryTrees entries)
  | .series tables => .list (tableTrees tables)

/-- The trees of the entries of a table. -/
def entryTrees : List (String × Item) → List (String × Tree)
  | [] => []
  | (k, i) :: rest => (k, i.toTree) :: entryTrees rest

def tableTrees : List (List (String × Item)) → List Tree
  | [] => []
  | t :: rest => .table (entryTrees t) :: tableTrees rest

end

/-- Changes what stands under `k`, if that can be done. -/
def alter? (k : String) (f : Option Item → Option Item) : Entries → Option Entries
  | [] => do return [(k, ← f none)]
  | e :: rest =>
    if e.1 = k then do return (k, ← f (some e.2)) :: rest
    else do return e :: (← alter? k f rest)

/-- Changes the last table of a list. -/
def alterLast? (f : Entries → Option Entries) : List Entries → Option (List Entries)
  | [] => none
  | [t] => do return [← f t]
  | t :: rest => do return t :: (← alterLast? f rest)

/-- Changes the table at the end of a path. The tables that are missing on the way are made. The
path of a dotted key does not enter a table that has a header. -/
def within? (dotted : Bool) (f : Standing → Entries → Option Entries) :
    (path : List String) → Standing → Entries → Option Entries
  | [], standing, t => f standing t
  | k :: path, _, t =>
    alter? k (fun
      | none =>
        let standing := if dotted then Standing.dotted else .implied
        (within? dotted f path standing []).map (.table standing)
      | some (.table standing u) =>
        if dotted && standing == .headed then none
        else (within? dotted f path standing u).map (.table standing)
      | some (.series us) => (alterLast? (within? dotted f path .headed) us).map .series
      | some (.value _) => none) t

/-- Adds a value under a key that is new. -/
def addValue? (k : String) (v : Tree) : Entries → Option Entries :=
  alter? k fun
    | none => some (.value v)
    | some _ => none

/-- Adds a value under a key, given by the path to it and its last part, to the table that is being
filled. -/
def addPair? (path : List String) (k : String) (v : Tree) (t : Entries) : Option Entries :=
  if path.isEmpty then addValue? k v t
  else
    within? true (fun standing u => if standing = .dotted then addValue? k v u else none)
      path .headed t

/-- Begins a table with a header of its own. -/
def openTable? (path : List String) (k : String) (root : Entries) : Option Entries :=
  within? false (fun _ t => alter? k (fun
    | none => some (.table .headed [])
    | some (.table .implied u) => some (.table .headed u)
    | some _ => none) t) path .headed root

/-- Begins a further table of a series. -/
def openSeries? (path : List String) (k : String) (root : Entries) : Option Entries :=
  within? false (fun _ t => alter? k (fun
    | none => some (.series [[]])
    | some (.series us) => some (.series (us ++ [[]]))
    | some _ => none) t) path .headed root

end PgMetrics.Toml
