import PgMetrics.Text.Blank

/-!
# Trees of settings

Every source of configuration is read into one kind of tree before anything is made of it. A later
source is put over an earlier one leaf by leaf.

## Main definitions

* `Tree`, `Tree.merge`.
* `Tree.text?`, `Tree.flag?`, `Tree.count?`, `Tree.fields?`: what a tree reads as.
-/

namespace PgMetrics

/-- Settings as they are written. -/
inductive Tree where
  | text (s : String)
  | flag (b : Bool)
  | number (n : Int)
  /-- A number with a fraction or an exponent. No setting takes one, so it stays as written. -/
  | real (written : String)
  | list (items : List Tree)
  | table (entries : List (String × Tree))
  deriving Inhabited

namespace Tree

/-- Binds `k` to `f` of what it is bound to now. -/
def alter (k : String) (f : Option Tree → Tree) : List (String × Tree) → List (String × Tree)
  | [] => [(k, f none)]
  | e :: rest => if e.1 = k then (k, f (some e.2)) :: rest else e :: alter k f rest

mutual

/-- Puts a tree over another one: tables entry by entry, all else as a whole. -/
def merge (base : Tree) : Tree → Tree
  | .table top =>
    match base with
    | .table entries => .table (mergeEntries entries top)
    | _ => .table top
  | top => top

/-- Puts the entries of a table over those of another one. -/
def mergeEntries (base : List (String × Tree)) : List (String × Tree) → List (String × Tree)
  | [] => base
  | (k, top) :: rest =>
    mergeEntries (alter k (fun old =>
      match old with
      | some t => merge t top
      | none => top) base) rest

end

def text? : Tree → Option String
  | .text s => some s
  | _ => none

def flag? : Tree → Option Bool
  | .flag b => some b
  | _ => none

/-- A whole number below `bound` that is not negative. -/
def count? (bound : Nat) : Tree → Option Nat
  | .number (.ofNat n) => if n < bound then some n else none
  | _ => none

/-- The items of a list, read by `item?`. -/
def items? {α : Type} (item? : Tree → Option α) : Tree → Option (List α)
  | .list items => items.mapM item?
  | _ => none

/-- The entries of a table, read by `value?`. -/
def entries? {α : Type} (value? : Tree → Option α) : Tree → Option (List (String × α))
  | .table entries => entries.mapM fun e => do return (e.1, ← value? e.2)
  | _ => none

/-- The fields of a record by name. A list gives the fields in the order of `names`; what it has
beyond them does not count. -/
def fields? (names : List String) : Tree → Option (List (String × Tree))
  | .table entries => some entries
  | .list items => some (names.zip items)
  | _ => none

/-- A field of a record, with the value that it has where it is missing. -/
def fieldOr {α : Type} (fields : List (String × Tree)) (name : String) (value? : Tree → Option α)
    (absent : α) : Option α :=
  match fields.lookup name with
  | some t => value? t
  | none => some absent

end Tree

end PgMetrics
