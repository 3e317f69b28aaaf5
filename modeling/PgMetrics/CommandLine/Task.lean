import PgMetrics.UserQueries

/-!
# Tasks

A task says step by step which files a run looks at and which one it writes, and what it prints in
the end. It does nothing by itself; it is carried out over files that are given as a function.

## Main definitions

* `Output`: what a run prints and how it ends.
* `Task`, `Task.run`.
-/

namespace PgMetrics.CommandLine

/-- What a run prints, and its exit code. -/
structure Output where
  exitCode : UInt8
  out : String
  err : String
  deriving DecidableEq, Repr

namespace Output

/-- Lines, each with the line feed that ends it. -/
def unlines (lines : List String) : String := lines.foldl (fun s l => s ++ l ++ "\n") ""

def success (lines : List String) : Output := ⟨0, unlines lines, ""⟩

/-- A run that failed after it had printed some lines. -/
def failure (lines : List String) (message : String) : Output :=
  ⟨1, unlines lines, "Error: " ++ message ++ "\n"⟩

end Output

/-- Which files a run looks at, and what comes of it. -/
inductive Task where
  | finish (o : Output)
  | read (path : String) (next : FileState → Task)
  /-- Writes a file; what follows is told why that failed, if it did. -/
  | write (path text : String) (next : Option String → Task)

/-- Carries out a task over the given files, where a path may refuse to be written, and gives what
was printed and written. -/
def Task.run (files : String → FileState) (refusal : String → Option String) :
    Task → Output × List (String × String)
  | .finish o => (o, [])
  | .read path next => (next (files path)).run files refusal
  | .write path text next =>
    match refusal path with
    | some reason => (next (some reason)).run files refusal
    | none =>
      let (o, written) := (next none).run files refusal
      (o, (path, text) :: written)

end PgMetrics.CommandLine
