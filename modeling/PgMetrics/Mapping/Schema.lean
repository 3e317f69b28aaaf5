import PgMetrics.Mapping.Conversion
import PgMetrics.Mapping.Layout
import PgMetrics.Metric.Basic

/-!
# Schemas: layouts compiled for a version

For one server version every column gets a rule, which says whether the column is dropped, is read
as a number, or starts a histogram. A histogram column also claims the three columns that are named
after it, which are dropped on their own unless they are declared.

## Main definitions

* `Rule`, `Schema`.
* `Namespace.compile`: the schema of a namespace for a version.
* `Layout.compile`: the schemas of all namespaces.
* `Schema.unknownDescriptor`: the descriptor of a column that has no rule.
-/

namespace PgMetrics

/-- How a column of a result set is handled. -/
structure Rule where
  discard : Bool
  histogram : Bool
  kind : MetricKind
  descriptor : Option Descriptor
  conversion : Conversion

/-- The rule of a column that is dropped. -/
def Rule.dropped : Rule := ⟨true, false, .untyped, none, .discard⟩

/-- A namespace compiled for a version. -/
structure Schema where
  /-- The label columns, sorted by name. -/
  labels : List String
  rules : Dict String Rule
  masterOnly : Bool
  cacheSeconds : UInt64
  stem : String
  constLabels : Dict String String

/-- The endings of the columns that belong to a histogram column. -/
def histogramEndings : List String := ["_bucket", "_sum", "_count"]

/-- The ending of the name under which a span is exported. -/
def millisecondsEnding : String := "_milliseconds"

namespace Schema

/-- The descriptor of a column that has no rule. -/
def unknownDescriptor (s : Schema) (namespaceName column : String) : Descriptor :=
  ⟨metricName s.stem namespaceName column, "Unknown metric from " ++ namespaceName, s.labels,
    s.constLabels⟩

end Schema

namespace Namespace

/-- The label columns that version `v` has. -/
def labelColumns (n : Namespace) (v : Version) : List String :=
  (n.columns.toList.filter fun c => decide (c.2.usage = .label) && c.2.isSupported v).map (·.1)

/-- The rule of a column that the version has. -/
def ruleOf (describe : String → String → Descriptor) (name : String) (c : Column) : Rule :=
  match c.usage with
  | .discard => .dropped
  | .label => .dropped
  | .counter => ⟨false, false, .counter, some (describe name c.description), .numeric⟩
  | .gauge => ⟨false, false, .gauge, some (describe name c.description), .numeric⟩
  | .mappedMetric =>
    ⟨false, false, .gauge, some (describe name c.description), .mapped (c.valueMap.getD .empty)⟩
  | .duration =>
    ⟨false, false, .gauge, some (describe (name ++ millisecondsEnding) c.description),
      .durationMillis⟩
  | .histogram => ⟨false, true, .untyped, some (describe name c.description), .histogram⟩

/-- Adds the rules of a declared column: its own, and before it the dropped columns of a
histogram. -/
def addRules (v : Version) (describe : String → String → Descriptor) (rules : Dict String Rule)
    (column : String × Column) : Dict String Rule :=
  let rules :=
    if column.2.usage = .histogram then
      histogramEndings.foldl (fun r ending => r.insert (column.1 ++ ending) .dropped) rules
    else rules
  let rule :=
    if column.2.isSupported v then ruleOf describe column.1 column.2 else .dropped
  rules.insert column.1 rule

/-- Compiles a namespace for version `v`. The columns are taken in ascending order, so a column
that is declared comes after the histogram column whose ending it carries and keeps its own rule. -/
def compile (n : Namespace) (v : Version) (namespaceName stem : String)
    (constLabels : Dict String String) : Schema :=
  let labels := n.labelColumns v
  let describe (column help : String) : Descriptor :=
    ⟨metricName stem namespaceName column, help, labels, constLabels⟩
  { labels
    rules := n.columns.toList.foldl (addRules v describe) .empty
    masterOnly := n.masterOnly
    cacheSeconds := n.cacheSeconds
    stem
    constLabels }

end Namespace

/-- Compiles every namespace of a layout for version `v`. -/
def Layout.compile (l : Layout) (v : Version) (stem : String) (constLabels : Dict String String) :
    Dict String Schema :=
  l.mapValues fun name n => n.compile v name stem constLabels

end PgMetrics
