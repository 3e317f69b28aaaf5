import PgMetrics.Decimal.Binary64
import PgMetrics.Dict
import PgMetrics.Text.Blank

/-!
# Metrics

A metric is a descriptor, the values of the labels that vary, and a reading: one number of a kind,
or a histogram.

## Main definitions

* `Bound`: an upper bound of a histogram bucket, ordered so that the zeros are one bound and every
  NaN is one last bound.
* `Descriptor`, `Reading`, `Metric`.
* `Metric.label?`: the value of a label, varying labels first.
-/

namespace PgMetrics

/-- An upper bound of a bucket. -/
structure Bound where
  value : Float

instance : Inhabited Bound := ⟨⟨0.0⟩⟩

instance : Ord Bound := ⟨compareOn fun b => Binary64.rank b.value⟩

instance : Std.TransOrd Bound :=
  inferInstanceAs (Std.TransCmp (compareOn fun b : Bound => Binary64.rank b.value))

/-- The kind of a number. -/
inductive MetricKind where
  | counter | gauge | untyped
  deriving DecidableEq, Repr

def MetricKind.name : MetricKind → String
  | .counter => "counter"
  | .gauge => "gauge"
  | .untyped => "untyped"

/-- Name, help and label schema of a metric. The values of `variableLabels` come with each metric,
those of `constLabels` are fixed. -/
structure Descriptor where
  name : String
  help : String
  variableLabels : List String
  constLabels : Dict String String

/-- Cumulative counts by upper bound, with the sum and the number of the observations. -/
structure Histogram where
  buckets : Dict Bound UInt64
  sum : Float
  count : UInt64

/-- What a metric reads. -/
inductive Reading where
  | scalar (kind : MetricKind) (value : Float)
  | histogram (h : Histogram)

/-- One sample with its descriptor. -/
structure Metric where
  descriptor : Descriptor
  labelValues : List String
  reading : Reading

namespace Metric

def name (m : Metric) : String := m.descriptor.name

/-- A metric that is one number. -/
def scalar (d : Descriptor) (kind : MetricKind) (value : Float) (labelValues : List String) :
    Metric :=
  ⟨d, labelValues, .scalar kind value⟩

/-- The number, if the metric is one. -/
def number? (m : Metric) : Option Float :=
  match m.reading with
  | .scalar _ x => some x
  | .histogram _ => none

/-- The value of the label named `n`. A varying label comes before a constant one, and of varying
labels of one name the first counts. -/
def label? (m : Metric) (n : String) : Option String :=
  let varying := (m.descriptor.variableLabels.findIdx? (· == n)).bind fun i => m.labelValues[i]?
  match varying with
  | some v => some v
  | none => m.descriptor.constLabels.get? n

end Metric

/-- The exported name of a column. A namespace that already carries the stem is not given it again,
and an empty stem is left out. -/
def metricName (stem namespaceName column : String) : String :=
  let carries :=
    match Text.dropStart? stem.toList namespaceName.toList with
    | some ('_' :: _) => true
    | _ => false
  if stem.isEmpty || carries then namespaceName ++ "_" ++ column
  else stem ++ "_" ++ namespaceName ++ "_" ++ column

/-- A name under the stem, or the name alone for an empty stem. -/
def stemmed (stem name : String) : String :=
  if stem.isEmpty then name else stem ++ "_" ++ name

end PgMetrics
