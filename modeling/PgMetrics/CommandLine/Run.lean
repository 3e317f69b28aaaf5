import PgMetrics.CommandLine.Invocation
import PgMetrics.CommandLine.Task
import PgMetrics.Config.Source
import PgMetrics.Fault.Basic
import PgMetrics.Text.Json

/-!
# What the commands do

## Main definitions

* `Command.task`: the task of a command.
* `task`: the task of a run, given its arguments and its environment.
-/

namespace PgMetrics.CommandLine

def truthText (b : Bool) : String := if b then "true" else "false"

/-! ## Checking a configuration -/

/-- What was read, as a document. -/
def shownConfig (c : Config) : List String :=
  let shown :=
    match c.document with
    | .ok text => text
    | .error refusal => "Failed to serialize: " ++ refusal.message
  ["", "Parsed configuration:", String.ofList (List.replicate 60 '='), shown]

def endpointLine (e : Endpoint) : String :=
  "    - " ++ e.address ++ " (master: " ++ truthText e.master ++ ")"

def configSummary (c : Config) : List String :=
  ["", "Configuration Summary:",
    "  - Metric prefix: " ++ c.exporter.metricPrefix,
    "  - Endpoints: " ++ Text.decimalText c.endpoints.length] ++
  c.endpoints.map endpointLine ++
  ["  - Default metrics: " ++ truthText (!c.exporter.disableDefaultMetrics),
    "  - Settings metrics: " ++ truthText (!c.exporter.disableSettingsMetrics)] ++
  (c.exporter.userQueriesPath.toList.map fun path => "  - User queries: " ++ path) ++
  ["  - Listening on: " ++ c.http.listenAddress ++ c.http.telemetryPath]

def validateOutput (path : String) (verbose : Bool) (read : Except ConfigError Config) : Output :=
  let start := "Validating configuration file: " ++ path
  match read with
  | .ok c =>
    .success ([start, "Configuration is valid"] ++ (if verbose then shownConfig c else []) ++
      configSummary c)
  | .error e =>
    .failure [start, "Configuration validation failed", "Error: " ++ e.message]
      (Fault.config e).message

/-! ## Checking queries -/

def namespaceLine (name : String) (n : Namespace) : String :=
  "  - " ++ name ++ " (" ++ Text.decimalText n.columns.size ++ " columns, master_only: " ++
    truthText n.masterOnly ++ ", cache: " ++ Text.decimalText n.cacheSeconds.toNat ++ "s)"

def queriesSummary (q : UserQueries) : List String :=
  ["Queries file: " ++ q.path, "Hash: " ++ q.digest] ++
    q.declarations.layout.toList.map fun e => namespaceLine e.1 e.2

/-- A namespace in the summary as JSON. -/
def namespaceJson (name : String) (n : Namespace) : Text.Json := .object [
  ("name", .text name),
  ("columns", .number n.columns.size),
  ("master_only", .flag n.masterOnly),
  ("cache_seconds", .number n.cacheSeconds.toNat)]

/-- The summary of a file as JSON. -/
def queriesJson (q : UserQueries) : Text.Json := .object [
  ("path", .text q.path),
  ("hashsum", .text q.digest),
  ("namespaces", .list (q.declarations.layout.toList.map fun e => namespaceJson e.1 e.2))]

/-- The declarations of a file, if a catalog can be built of them alone. -/
def checkedQueries (path : String) (state : FileState) : Except ConfigError UserQueries := do
  let q ← UserQueries.load path state
  let _ ← Catalog.build false (some q.declarations) ""
  return q

/-- What checking a file of queries gives. -/
def checkOutput (json : Bool) (path : String) (state : FileState) : Output :=
  match checkedQueries path state with
  | .ok q => .success (if json then [(queriesJson q).render] else queriesSummary q)
  | .error e => .failure [] (Fault.config e).message

/-- Checks the given file, or else the one that the configuration names. -/
def checkTask (json : Bool) (file : Option String) (c : Config) : Task :=
  match file <|> c.exporter.userQueriesPath with
  | some path => .read path fun state => .finish (checkOutput json path state)
  | none => .finish (.failure [] "No queries file given and none configured")

/-- The configuration at a path or, if nothing is there, in the environment; or the message that it
cannot be had. -/
def startConfig (path : String) (assigned : List (String × String)) (state : FileState) :
    Except String Config :=
  match state with
  | .missing =>
    (Config.ofEnvironment assigned).mapError fun e =>
      "Failed to load config from environment\n\nCaused by:\n    " ++ e.message
  | state =>
    (Config.ofFile path state assigned).mapError fun e =>
      "Failed to load config from " ++ path ++ "\n\nCaused by:\n    " ++ e.message

/-! ## Commands -/

def programVersion : String := "0.1.0"

def versionLines : List String :=
  ["PostgreSQL Statistics Exporter v" ++ programVersion, "", "Build Information:",
    "  - Target: x86_64", "  - OS: linux"]

def Command.task (config : String) (assigned : List (String × String)) : Command → Task
  | .serve =>
    .read config fun state =>
      .finish (.failure [] (match startConfig config assigned state with
        | .ok _ => "Serving is not part of this program"
        | .error message => message))
  | .validate verbose =>
    .read config fun state =>
      .finish (validateOutput config verbose (Config.ofFile config state assigned))
  | .generateConfig none => .finish (.success [Config.sample])
  | .generateConfig (some path) =>
    .write path Config.sample fun
      | none => .finish (.success ["Default configuration written to: " ++ path])
      | some reason => .finish (.failure [] (Fault.file reason).message)
  | .checkQueries file json =>
    .read config fun state =>
      match startConfig config assigned state with
      | .ok c => checkTask json file c
      | .error message => .finish (.failure [] message)
  | .version => .finish (.success versionLines)
  | .versionLine => .finish (.success [Program.spec.name ++ " " ++ programVersion])
  | .help page => .finish (.success [page])

/-- The task of a run. Arguments that make no sense end it at once, with an exit code of their
own. -/
def task (arguments : List String) (assigned : List (String × String)) : Task :=
  match Invocation.read arguments assigned with
  | .ok i => i.command.task i.config assigned
  | .error e => .finish ⟨2, "", "error: " ++ e.message ++ "\n"⟩

end PgMetrics.CommandLine
