import PgMetrics.Toml.Value

/-!
# Documents of TOML

A document is a sequence of lines. A header begins a table or a further table of a series, and the
pairs after it belong to that table.

## Main definitions

* `Filling`: the tables read so far, and the path of the one that is being filled.
* `document?`: the tree of a text.
-/

namespace PgMetrics.Toml

/-- The tables read so far. -/
structure Filling where
  root : Entries
  /-- The path of the table that is being filled. -/
  current : List String

namespace Filling

/-- Nothing read yet; the pairs belong to the document itself. -/
def start : Filling := ⟨[], []⟩

def openTable? (f : Filling) (path : List String) (k : String) : Option Filling := do
  return ⟨← Toml.openTable? path k f.root, path ++ [k]⟩

/-- Begins a further table of a series. -/
def openSeries? (f : Filling) (path : List String) (k : String) : Option Filling := do
  return ⟨← Toml.openSeries? path k f.root, path ++ [k]⟩

/-- Adds a pair to the table that is being filled. -/
def addPair? (f : Filling) (path : List String) (k : String) (v : Tree) : Option Filling := do
  let root ← within? false (fun _ t => Toml.addPair? path k v t) f.current .headed f.root
  return { f with root }

end Filling

/-- What follows the rest of a line on which only spaces and a comment may stand. -/
def finishLine? (s : List Char) : Option (List Char) :=
  match skipComment (skipSpaces s) with
  | [] => some []
  | s => dropBreak? s

/-- Reads the line at the front, which is not blank. -/
def line? (f : Filling) : List Char → Option (Filling × List Char)
  | '[' :: '[' :: s => do
    let ((path, k), s) ← keys? s
    let s ← Text.dropStart? "]]".toList s
    return (← f.openSeries? path k, ← finishLine? s)
  | '[' :: s => do
    let ((path, k), s) ← keys? s
    let s ← Text.dropStart? "]".toList s
    return (← f.openTable? path k, ← finishLine? s)
  | s => do
    let ((path, k), s) ← keys? s
    let s ← Text.dropStart? "=".toList s
    let (v, s) ← value? (skipSpaces s)
    return (← f.addPair? path k v, ← finishLine? s)

/-- Reads the lines of a text. -/
def lines? : (fuel : Nat) → Filling → List Char → Option Filling
  | 0, _, _ => none
  | fuel + 1, f, s =>
    match skipSpaces s with
    | [] => some f
    | s =>
      match finishLine? s with
      | some s => lines? fuel f s
      | none => do
        let (f, s) ← line? f s
        lines? fuel f s

/-- The text without the mark of its encoding at its front. -/
def dropMark (s : List Char) : List Char := (Text.dropStart? ['\ufeff'] s).getD s

def document? (s : List Char) : Option Tree := do
  let f ← lines? (s.length + 1) .start (dropMark s)
  return .table (entryTrees f.root)

end PgMetrics.Toml
