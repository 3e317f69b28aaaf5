import PgMetrics.Fault.Scrape
import PgMetrics.Metric.Basic
import PgMetrics.Value.Basic

/-!
# Server parameters

The boolean and numeric parameters of a server are exported as gauges, times in seconds and sizes
in bytes.

## Main definitions

* `Setting`, `Setting.ofRow?`: a parameter and how a row gives one.
* `SettingUnit.ofName?`: the table of units.
* `Setting.normalise`, `Setting.metric`.
* `Settings.collect`: all rows; an unknown unit stops it.
-/

namespace PgMetrics

/-- A server parameter as the server reports it. -/
structure Setting where
  name : String
  setting : String
  unit : String
  description : String
  type : String
  deriving DecidableEq, Repr

/-- A unit of a parameter: the base unit, and what one of it is worth there. -/
structure SettingUnit where
  base : String
  factor : Float

namespace SettingUnit

def seconds (factor : Float) : SettingUnit := ⟨"seconds", factor⟩

/-- A unit of size: `2 ^ n` bytes. -/
def bytes (n : Nat) : SettingUnit := ⟨"bytes", (Nat.pow 2 n).toUInt64.toFloat⟩

/-- The units that parameters come in. -/
def table : List (String × SettingUnit) :=
  [("ms", seconds (1.0 / 1000.0)), ("s", seconds 1.0), ("min", seconds 60.0),
    ("h", seconds 3600.0), ("d", seconds 86400.0), ("B", bytes 0), ("kB", bytes 10),
    ("1kB", bytes 10), ("2kB", bytes 11), ("4kB", bytes 12), ("8kB", bytes 13),
    ("16kB", bytes 14), ("32kB", bytes 15), ("64kB", bytes 16), ("MB", bytes 20),
    ("16MB", bytes 24), ("32MB", bytes 25), ("64MB", bytes 26), ("GB", bytes 30),
    ("TB", bytes 40)]

/-- The unit with the given name. -/
def ofName? (name : String) : Option SettingUnit := table.lookup name

end SettingUnit

namespace Setting

/-- A row with at least five cells gives a parameter. -/
def ofRow? : List Value → Option Setting
  | name :: setting :: unit :: description :: type :: _ =>
    some ⟨name.label, setting.label, unit.label, description.label, type.label⟩
  | _ => none

/-- The value in base units, with the base unit if there is one. The value -1 means that the
parameter is off and is not scaled. -/
def normalise (s : Setting) : Except SettingsError (Float × Option String) :=
  match readFloat (Text.trim s.setting.toList) with
  | .error e => .error (.invalidValue s.name s.setting e.message)
  | .ok value =>
    if s.unit = "" then .ok (value, none)
    else
      match SettingUnit.ofName? s.unit with
      | none => .error (.unknownUnit s.name s.unit)
      | some u => .ok (if value == -1.0 then value else value * u.factor, some u.base)

/-- The name with points and dashes made underscores. -/
def exportedName (s : Setting) : String :=
  String.ofList (s.name.toList.map fun c => if c = '.' ∨ c = '-' then '_' else c)

/-- The gauge of a parameter, named after its base unit where it has one. -/
def metric (s : Setting) (stem : String) (labels : Dict String String) :
    Except SettingsError Metric :=
  let help := "Server Parameter: " ++ s.name
  let gauge (name help : String) (value : Float) : Metric :=
    .scalar ⟨metricName stem "settings" name, help, [], labels⟩ .gauge value []
  if s.type = "bool" then
    .ok (gauge s.exportedName help (if s.setting = "on" then 1.0 else 0.0))
  else if s.type = "integer" ∨ s.type = "real" then
    match s.normalise with
    | .error e => .error e
    | .ok (value, none) => .ok (gauge s.exportedName help value)
    | .ok (value, some unit) =>
      .ok (gauge (s.exportedName ++ "_" ++ unit)
        (help ++ " [Units converted to " ++ unit ++ ".]") value)
  else .error (.unsupportedType s.name s.type)

end Setting

/-- The parameters of a server as metrics, and what was passed over. -/
structure SettingsBatch where
  metrics : List Metric
  skipped : List SettingsError

namespace Settings

/-- The query that lists the parameters. -/
def query : String :=
  "SELECT name, setting, COALESCE(unit, ''), short_desc, vartype " ++
    "FROM pg_settings WHERE vartype IN ('bool', 'integer', 'real') " ++
    "AND name != 'sync_commit_cancel_wait';"

/-- The name under which faults of the query are reported. -/
def namespaceName : String := "pg_settings"

def addRow (stem : String) (labels : Dict String String) (batch : SettingsBatch)
    (row : List Value) : Except SettingsError SettingsBatch :=
  match Setting.ofRow? row with
  | none => .ok batch
  | some s =>
    match s.metric stem labels with
    | .ok m => .ok { batch with metrics := batch.metrics ++ [m] }
    | .error e =>
      if e.isDefect then .error e else .ok { batch with skipped := batch.skipped ++ [e] }

/-- The metrics of all rows. The first unknown unit stops it; other bad rows are passed over. -/
def collect (stem : String) (labels : Dict String String) (rows : List (List Value)) :
    Except SettingsError SettingsBatch :=
  rows.foldlM (addRow stem labels) ⟨[], []⟩

end Settings

end PgMetrics
