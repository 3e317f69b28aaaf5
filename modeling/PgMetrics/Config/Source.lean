import PgMetrics.Config.Coding
import PgMetrics.Config.Environment
import PgMetrics.Config.Validate
import PgMetrics.Text.Utf8
import PgMetrics.Toml.Document
import PgMetrics.Toml.Written
import PgMetrics.UserQueries

/-!
# Where a configuration comes from

A configuration is read from a document, from a file under the settings of the environment, or from
the environment alone. However it was read, it is valid.

## Main definitions

* `Config.ofDocument`, `Config.ofFile`, `Config.ofEnvironment`.
* `Config.document`: a configuration as a document, without its passwords.
* `Config.sample`: the document that a user may start from.
-/

namespace PgMetrics.Config

/-- The valid configuration that a tree stands for. -/
def ofTree (t : Tree) : Except ConfigError Config :=
  match ofTree? t with
  | none => .error (.malformed "a field does not have the shape that is wanted")
  | some c => do
    c.validate
    return c

def treeOfDocument (text : List Char) : Except ConfigError Tree :=
  match Toml.document? text with
  | some t => .ok t
  | none => .error (.malformed "the text is not a document")

def ofDocument (text : List Char) : Except ConfigError Config := do
  ofTree (← treeOfDocument text)

/-- The tree of what is found under a path. A directory says nothing. -/
def treeOfFile (path : String) : FileState → Except ConfigError Tree
  | .missing => .error (.fileNotFound path)
  | .directory => .ok (.table [])
  | .unreadable => .error (.malformed (path ++ ": the file cannot be read"))
  | .contents octets =>
    match Text.Utf8.decode? octets with
    | some text => treeOfDocument text
    | none => .error (.malformed (path ++ ": the file is not well-formed UTF-8"))

/-- The configuration of a file, with the settings of the environment put over it. -/
def ofFile (path : String) (state : FileState) (assigned : List (String × String)) :
    Except ConfigError Config := do
  ofTree (Environment.putOn (← treeOfFile path state) assigned)

/-- The settings of the environment put over the standard configuration. -/
def ofEnvironment (assigned : List (String × String)) : Except ConfigError Config :=
  ofTree (Environment.putOn standard.toTree assigned)

def document (c : Config) : Except Toml.Written.Refusal String := do
  return String.ofList (← Toml.Written.document c.toTree)

/-- The standard configuration with one endpoint, as a document. -/
def sample : String :=
  match document { standard with endpoints := [.localhost] } with
  | .ok text => text
  | .error _ => ""

end PgMetrics.Config
