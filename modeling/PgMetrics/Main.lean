import PgMetrics.CommandLine.Run

/-!
# The program

Carries out the task of the command line over the files and the environment of the process.
-/

namespace PgMetrics.CommandLine

/-- What is found under a path. -/
def look (path : String) : IO FileState := do
  try
    return .contents (← IO.FS.readBinFile path).toList
  catch
    | .noFileOrDirectory .. => return .missing
    | .inappropriateType .. => return .directory
    | _ => return .unreadable

/-- Why the system refused to write a file. -/
def refusalText : IO.Error → String
  | .noFileOrDirectory _ code details =>
    details ++ " (os error " ++ Text.decimalText code.toNat ++ ")"
  | e => toString e

def perform : Task → IO Output
  | .finish o => return o
  | .read path next => do perform (next (← look path))
  | .write path text next => do
    let refused ← try
        IO.FS.writeFile path text
        pure none
      catch e => pure (some (refusalText e))
    perform (next refused)

def assignment (s : List Char) : String × String :=
  (String.ofList (s.takeWhile (· != '=')), String.ofList ((s.dropWhile (· != '=')).drop 1))

/-- The variables of the process, in its order. -/
def environment : IO (List (String × String)) := do
  let octets ← IO.FS.readBinFile "/proc/self/environ"
  let entries := Text.pieces (· == '\x00') (Text.Utf8.decodeLossy octets.toList)
  return (entries.filter fun s => !s.isEmpty).map assignment

end PgMetrics.CommandLine

/-- Runs the program with the given arguments. -/
def main (arguments : List String) : IO UInt32 := do
  let o ← PgMetrics.CommandLine.perform
    (PgMetrics.CommandLine.task arguments (← PgMetrics.CommandLine.environment))
  IO.print o.out
  IO.eprint o.err
  return o.exitCode.toUInt32
