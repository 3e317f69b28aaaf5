import PgMetrics.CommandLine.Arguments
import PgMetrics.CommandLine.Page

/-!
# Invocations

The options before the command belong to every command. What they leave open may be said in the
environment, where a name that comes twice is read where it comes first. Without a command the
program serves.

## Main definitions

* `Program.spec`, `Program.commands`: what the program and its commands take.
* `Command`, `Invocation`.
* `Invocation.read`: the invocation that arguments and environment ask for.
-/

namespace PgMetrics.CommandLine

/-- What is to be done. -/
inductive Command where
  /-- Serves the metrics. -/
  | serve
  | validate (verbose : Bool)
  /-- Writes the sample configuration to a file or to standard output. -/
  | generateConfig (output : Option String)
  /-- Checks the given file or the one that the configuration names. -/
  | checkQueries (file : Option String) (json : Bool)
  | version
  /-- Tells name and version in one line. -/
  | versionLine
  /-- Shows a page. -/
  | help (page : String)
  deriving DecidableEq, Repr

/-- A command with the path of its configuration. -/
structure Invocation where
  config : String
  command : Command
  deriving DecidableEq, Repr

/-! ## What the program takes -/

namespace Program

/-- The option for the path of the configuration. -/
def configOption : OptionSpec where
  long := "config"
  short := some 'c'
  role := .path "CONFIG"
  about := "Configuration file path"
  variableName := some "PG_EXPORTER_CONFIG"
  standard := some "pg_exporter.toml"

/-- The option for the level of the log. -/
def levelOption : OptionSpec where
  long := "log-level"
  short := some 'l'
  role := .text "LOG_LEVEL"
  about := "Log level override"
  variableName := some "PG_EXPORTER_LOG_LEVEL"

/-- The option that makes the log tell everything. -/
def debugOption : OptionSpec where
  long := "debug"
  short := some 'd'
  role := .flag
  about := "Enable debug mode"
  variableName := some "PG_EXPORTER_DEBUG"

/-- The option that asks for a page. -/
def helpOption : OptionSpec where
  long := "help"
  short := some 'h'
  role := .help
  about := "Print help"

/-- The option that asks for the version. -/
def versionOption : OptionSpec where
  long := "version"
  short := some 'V'
  role := .version
  about := "Print version"

/-- What the program takes before a command. -/
def spec : CommandSpec where
  name := "pg_exporter"
  about := "Version-aware PostgreSQL statistics exporter"
  longAbout := some ("Polls PostgreSQL servers, maps their statistics views onto typed metrics " ++
    "according to the server version, and serves them over HTTP in the Prometheus text format.")
  options := [configOption, levelOption, debugOption, helpOption, versionOption]

def serveSpec : CommandSpec where
  name := "run"
  about := "Serve metrics over HTTP"
  options := [helpOption]

/-- The option that shows the configuration that was read. -/
def verboseOption : OptionSpec where
  long := "verbose"
  short := some 'v'
  role := .flag
  about := "Show full parsed configuration"

def validateSpec : CommandSpec where
  name := "validate"
  about := "Validate configuration file"
  options := [verboseOption, helpOption]

/-- The option that names the file to write. -/
def outputOption : OptionSpec where
  long := "output"
  short := some 'o'
  role := .path "OUTPUT"
  about := "Output path (default: stdout)"

def generateConfigSpec : CommandSpec where
  name := "generate-config"
  about := "Generate default configuration file"
  options := [outputOption, helpOption]

/-- The option that asks for JSON. -/
def jsonOption : OptionSpec where
  long := "json"
  short := none
  role := .flag
  about := "Print the summary as JSON"

def fileOperand : OperandSpec := ⟨"FILE", false, "Queries file (default: the configured one)"⟩

def checkQueriesSpec : CommandSpec where
  name := "check-queries"
  about := "Parse a user queries file and report its namespaces"
  options := [jsonOption, helpOption]
  operand := some fileOperand

def versionSpec : CommandSpec where
  name := "version"
  about := "Show version and build info"
  options := [helpOption]

def helpSpec : CommandSpec where
  name := "help"
  about := "Print this message or the help of the given subcommand(s)"
  options := []
  operand := some ⟨"COMMAND", true, "Print help for the subcommand(s)"⟩

def commands : List CommandSpec :=
  [serveSpec, validateSpec, generateConfigSpec, checkQueriesSpec, versionSpec, helpSpec]

def page (long : Bool) (assigned : List (String × String)) : String :=
  spec.page [] commands ⟨long, pageWidth assigned, assigned⟩

def commandPage (c : CommandSpec) (assigned : List (String × String)) : String :=
  c.page [spec.name] [] ⟨false, pageWidth assigned, assigned⟩

end Program

/-! ## Commands -/

namespace Command

open Program

/-- The page about the program, or about the command that is named. No command has commands. -/
def topic (assigned : List (String × String)) : List String → Except UsageError Command
  | [] => .ok (.help (page true assigned))
  | [name] =>
    match commands.find? (·.name == name) with
    | some c => .ok (.help (commandPage c assigned))
    | none => .error (.unknownCommand name)
  | name :: other :: _ =>
    if commands.any (·.name == name) then .error (.unknownCommand other)
    else .error (.unknownCommand name)

/-- What a stop asks for in the arguments of a command. -/
def ofStop (page : Bool → String) : Stop → Except UsageError Command
  | .misuse e => .error e
  | .help long => .ok (.help (page long))
  | .version => .ok .versionLine

/-- The command that what was given stands for. -/
def ofGiven (name : String) (g : Given) : Except UsageError Command :=
  match name with
  | "run" => .ok .serve
  | "validate" => .ok (.validate (g.has verboseOption.long))
  | "generate-config" => .ok (.generateConfig (g.value? outputOption.long))
  | "check-queries" =>
    .ok (.checkQueries (g.value? fileOperand.slot.key) (g.has jsonOption.long))
  | "version" => .ok .version
  | name => .error (.unknownCommand name)

/-- Whether the command is carried out whatever the options before it say. -/
def isInformation : Command → Bool
  | .help _ => true
  | .versionLine => true
  | _ => false

/-- Reads a command and its arguments. -/
def read (name : String) (arguments : List String) (assigned : List (String × String)) :
    Except UsageError Command :=
  if name = helpSpec.name then topic assigned arguments
  else
    match commands.find? (·.name == name) with
    | none => .error (.unknownCommand name)
    | some c =>
      match Given.read c arguments with
      | .ok g => ofGiven name g
      | .error stop => ofStop (fun _ => commandPage c assigned) stop

end Command

namespace Invocation

open Program

/-- What a variable says in place of an option. -/
def assigned? (o : OptionSpec) (assigned : List (String × String)) : Option String :=
  o.variableName.bind fun name => assigned.lookup name

/-- The path of the configuration: given, or in the environment, or the standard one. -/
def configPath (g : Given) (assigned : List (String × String)) : Except UsageError String :=
  match g.value? configOption.long with
  | some path => .ok path
  | none =>
    match assigned? configOption assigned with
    | some "" => .error (.missingValue configOption.shown)
    | some path => .ok path
    | none => .ok (configOption.standard.getD "")

/-- Refuses a variable for the log that is no truth value. -/
def checkDebug (g : Given) (assigned : List (String × String)) : Except UsageError Unit :=
  if g.has debugOption.long then .ok ()
  else
    match assigned? debugOption assigned with
    | none => .ok ()
    | some "" => .error (.missingValue debugOption.shown)
    | some value =>
      if value = "true" ∨ value = "false" then .ok ()
      else .error (.invalidValue value debugOption.shown)

/-- A command that needs no configuration. -/
def bare (c : Command) : Invocation := ⟨"", c⟩

/-- The invocation that arguments and environment ask for. What is wrong with a command's own
arguments comes before what is wrong with the options before it. -/
def read (arguments : List String) (assigned : List (String × String)) :
    Except UsageError Invocation :=
  match Given.readFrom spec (commands.map (·.name)) .none arguments with
  | .error stop => bare <$> Command.ofStop (page · assigned) stop
  | .ok (g, rest) => do
    let command ←
      match rest with
      | some (name, arguments) => Command.read name arguments assigned
      | none => .ok .serve
    if command.isInformation then return bare command
    else
      let g ← g.settle
      let config ← configPath g assigned
      checkDebug g assigned
      return ⟨config, command⟩

end Invocation

end PgMetrics.CommandLine
