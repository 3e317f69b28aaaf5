import PgMetrics.Metric.Basic

/-!
# Metric families

For exposition, metrics are grouped by name into families. The first metric of a name gives the
family its help and its type; the samples keep their order.

## Main definitions

* `Metric.labelPairs`: the labels of a sample, sorted by name.
* `Family.group`: the families of a list of metrics, in the order of their names.
* `Sample.scalarAs`, `Sample.histogramOrEmpty`: a sample read under the type of its family.
-/

namespace PgMetrics

/-- The type of a family. -/
inductive FamilyType where
  | counter | gauge | untyped | histogram
  deriving DecidableEq, Repr

def FamilyType.name : FamilyType → String
  | .counter => "counter"
  | .gauge => "gauge"
  | .untyped => "untyped"
  | .histogram => "histogram"

/-- The type of a family whose scalars are of the given kind. -/
def FamilyType.ofKind : MetricKind → FamilyType
  | .counter => .counter
  | .gauge => .gauge
  | .untyped => .untyped

/-- The type that a reading calls for. -/
def FamilyType.ofReading : Reading → FamilyType
  | .scalar kind _ => .ofKind kind
  | .histogram _ => .histogram

/-- A sample with its labels in order. -/
structure Sample where
  labels : List (String × String)
  reading : Reading

/-- Samples of one name. -/
structure Family where
  name : String
  help : String
  type : FamilyType
  samples : List Sample

def Histogram.empty : Histogram := ⟨.empty, 0.0, 0⟩

namespace Sample

/-- The number of a sample under the type of its family; zero where the sample is of another
type. -/
def scalarAs (s : Sample) (type : FamilyType) : Float :=
  match s.reading with
  | .scalar kind x => if FamilyType.ofKind kind = type then x else 0.0
  | .histogram _ => 0.0

/-- The histogram of a sample, the empty one where the sample is a number. -/
def histogramOrEmpty (s : Sample) : Histogram :=
  match s.reading with
  | .scalar .. => .empty
  | .histogram h => h

end Sample

namespace Metric

/-- Varying labels with their values; a value that is missing is empty. -/
def zipLabels : List String → List String → List (String × String)
  | [], _ => []
  | n :: names, [] => (n, "") :: zipLabels names []
  | n :: names, v :: values => (n, v) :: zipLabels names values

/-- All labels with their values, sorted by name; of equal names the varying ones come first. -/
def labelPairs (m : Metric) : List (String × String) :=
  (zipLabels m.descriptor.variableLabels m.labelValues ++
    m.descriptor.constLabels.toList).mergeSort fun a b => decide (a.1 ≤ b.1)

def sample (m : Metric) : Sample := ⟨m.labelPairs, m.reading⟩

end Metric

namespace Family

/-- Puts a metric into its family, which it founds if there is none yet. -/
def add (families : Dict String Family) (m : Metric) : Dict String Family :=
  let family := (families.get? m.name).getD
    ⟨m.name, m.descriptor.help, .ofReading m.reading, []⟩
  families.insert m.name { family with samples := family.samples ++ [m.sample] }

/-- The families of a list of metrics, in the order of their names. -/
def group (metrics : List Metric) : List Family :=
  (metrics.foldl add .empty).values

end Family

end PgMetrics
