import PgMetrics.Dict
import PgMetrics.Fault.Config
import PgMetrics.Text.Blank
import PgMetrics.Version.Range

/-!
# Layouts: what the columns of a namespace are

A namespace is a statistics view, or a query that stands for one. Its layout says of every column
how it is used, and on which server versions the column exists.

## Main definitions

* `Usage`, `Column`, `Namespace`, `Layout`.
* `Usage.parse`: the usage that a name stands for, in any case.
* `Column.isSupported`: whether a version has a column.
-/

namespace PgMetrics

/-- How a column is used. -/
inductive Usage where
  /-- The column is ignored. -/
  | discard
  /-- The column labels the metrics of its row. -/
  | label
  | counter
  | gauge
  /-- Text that stands for a number through a look-up table. -/
  | mappedMetric
  /-- A written span, exported in milliseconds. -/
  | duration
  /-- The bounds of a histogram that is spread over four columns. -/
  | histogram
  deriving DecidableEq, Repr, Inhabited

namespace Usage

/-- The upper-case name of a usage. -/
def name : Usage → String
  | .discard => "DISCARD"
  | .label => "LABEL"
  | .counter => "COUNTER"
  | .gauge => "GAUGE"
  | .mappedMetric => "MAPPEDMETRIC"
  | .duration => "DURATION"
  | .histogram => "HISTOGRAM"

def all : List Usage :=
  [.discard, .label, .counter, .gauge, .mappedMetric, .duration, .histogram]

/-- The usage that a name stands for; blanks around it and the case of its letters are free. -/
def parse (s : String) : Except ConfigError Usage :=
  let wanted := String.ofList ((Text.trim s.toList).map Text.upperAscii)
  match all.find? fun u => u.name == wanted with
  | some u => .ok u
  | none => .error (.unknownUsage s)

end Usage

/-- The declaration of a column. -/
structure Column where
  usage : Usage
  description : String
  /-- The numbers that texts stand for, where the usage asks for them. -/
  valueMap : Option (Dict String Float)
  /-- The versions that have the column; all, if it is not said. -/
  versions : Option VersionRange
  deriving Inhabited

namespace Column

def plain (usage : Usage) (description : String) : Column := ⟨usage, description, none, none⟩

/-- Whether version `v` has the column. -/
def isSupported (c : Column) (v : Version) : Bool :=
  match c.versions with
  | none => true
  | some r => VersionRange.admits r v

end Column

/-- The declaration of a namespace. -/
structure Namespace where
  columns : Dict String Column
  /-- Whether only primaries are asked. -/
  masterOnly : Bool
  /-- For how many seconds a result may be used again; zero turns that off. -/
  cacheSeconds : UInt64
  deriving Inhabited

abbrev Layout := Dict String Namespace

end PgMetrics
