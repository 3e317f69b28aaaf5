import PgMetrics.Digest
import PgMetrics.Mapping.Catalog
import PgMetrics.Yaml.Reading

/-!
# User queries

A user's file declares namespaces, each with a query that holds for every version and the columns
of its result. A namespace without a query, and a column with an unknown usage, are refused; the
first of them in the order of the namespaces is reported.

## Main definitions

* `FileState`: what is found under a path.
* `UserQueries.parse`: the declarations in a text.
* `UserQueries.load`: the declarations in a file, with its digest.
-/

namespace PgMetrics

/-- What is found under a path. -/
inductive FileState where
  | missing
  | directory
  | unreadable
  | contents (octets : List UInt8)

/-- The octets of a file, if they can be read. -/
def FileState.octets? : FileState → Option (List UInt8)
  | .contents octets => some octets
  | _ => none

/-- A column as it is written. -/
structure UserColumn where
  usage : String
  description : String

/-- A namespace as it is written. -/
structure UserNamespace where
  query : String
  master : Bool
  cacheSeconds : UInt64
  /-- The columns in groups; of columns with one name the last counts. -/
  metrics : List (Dict String UserColumn)

namespace UserColumn

def ofNode (n : Yaml.Node) : Yaml.DecodeM UserColumn := do
  let fields ← n.asRecord ["usage", "description"]
  match ← Yaml.Node.field? fields "usage" Yaml.Node.asText with
  | none => failure
  | some usage =>
    let description ← Yaml.Node.field? fields "description" Yaml.Node.asText
    return ⟨usage, description.getD ""⟩

def declare (c : UserColumn) : Except ConfigError Column := do
  return .plain (← Usage.parse c.usage) c.description

end UserColumn

namespace UserNamespace

def groupOfNode (n : Yaml.Node) : Yaml.DecodeM (Dict String UserColumn) := do
  return .ofList (← n.asEntries UserColumn.ofNode)

def ofNode (n : Yaml.Node) : Yaml.DecodeM UserNamespace := do
  let fields ← n.asRecord ["query", "master", "cache_seconds", "metrics"]
  match ← Yaml.Node.field? fields "query" Yaml.Node.asText with
  | none => failure
  | some query =>
    let master ← Yaml.Node.field? fields "master" Yaml.Node.asFlag
    let cacheSeconds ← Yaml.Node.field? fields "cache_seconds" Yaml.Node.asCount
    let metrics ← Yaml.Node.field? fields "metrics" fun n => n.asItems groupOfNode
    return ⟨query, master.getD false, cacheSeconds.getD 0, metrics.getD []⟩

/-- Adds the columns of a group in the order of their names. -/
def addGroup (columns : Dict String Column) (group : Dict String UserColumn) :
    Except ConfigError (Dict String Column) :=
  group.toList.foldlM (fun d c => do return d.insert c.1 (← c.2.declare)) columns

def declare (name : String) (n : UserNamespace) : Except ConfigError Namespace := do
  if Text.isBlankText n.query then .error (.missingField (name ++ ".query"))
  else
    let columns ← n.metrics.foldlM addGroup .empty
    return ⟨columns, n.master, n.cacheSeconds⟩

end UserNamespace

/-- The declarations of a file. -/
structure UserQueries where
  path : String
  /-- The digest of the file. -/
  digest : String
  declarations : Declarations

namespace UserQueries

/-- Adds a namespace and its query. -/
def addNamespace (d : Declarations) (entry : String × UserNamespace) :
    Except ConfigError Declarations := do
  let n ← entry.2.declare entry.1
  return ⟨d.layout.insert entry.1 n, d.queries.insert entry.1 [⟨.any, entry.2.query⟩]⟩

/-- The declarations of namespaces that were read, taken in the order of their names. -/
def declare (namespaces : Dict String UserNamespace) : Except ConfigError Declarations :=
  namespaces.toList.foldlM addNamespace .none

def namespaces? (text : List Char) : Option (Dict String UserNamespace) := do
  let entries ← (← Yaml.document? text) |> Yaml.DecodeM.run? fun n =>
    n.asEntries UserNamespace.ofNode
  return .ofList entries

def parse (text : List Char) : Except ConfigError Declarations :=
  match namespaces? text with
  | some namespaces => declare namespaces
  | none => .error (.malformed "the text is not a mapping of namespaces")

/-- The declarations in what is found under a path. -/
def load (path : String) : FileState → Except ConfigError UserQueries
  | .missing => .error (.fileNotFound path)
  | .directory => .error (.malformed (path ++ ": a directory is not a file"))
  | .unreadable => .error (.malformed (path ++ ": the file cannot be read"))
  | .contents octets =>
    match Text.Utf8.decode? octets with
    | none => .error (.malformed (path ++ ": the file is not well-formed UTF-8"))
    | some text => do return ⟨path, Digest.text octets, ← parse text⟩

end UserQueries

end PgMetrics
