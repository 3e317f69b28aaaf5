import PgMetrics.Mapping.Schema

/-!
# From rows to metrics

The cells of a result set are visited row by row and in each row from left to right. Every cell
gives a metric, an error or nothing; an error costs its cell only. The labels of a row are read
from the first columns with the names of the label columns.

## Main definitions

* `Schema.visit`: what one cell gives.
* `histogramOf`: a histogram put together from the four columns that carry it.
* `Schema.convert`: the metrics and the errors of a result set.
-/

namespace PgMetrics

/-- What a cell gives. -/
inductive CellResult where
  | metric (m : Metric)
  | error (e : ConversionError)
  | nothing

/-- Metrics and errors, each in the order of their cells. -/
structure Batch where
  metrics : List Metric
  errors : List ConversionError

namespace Batch

def empty : Batch := ⟨[], []⟩

def append (a b : Batch) : Batch := ⟨a.metrics ++ b.metrics, a.errors ++ b.errors⟩

def ofCell : CellResult → Batch
  | .metric m => ⟨[m], []⟩
  | .error e => ⟨[], [e]⟩
  | .nothing => empty

def ofCells (cells : List CellResult) : Batch :=
  cells.foldr (fun c b => (ofCell c).append b) empty

end Batch

/-- A column of a result set with a row of it. -/
structure RowContext where
  namespaceName : String
  result : ResultSet
  row : List Value
  labelValues : List String

namespace RowContext

/-- The value of the first column named `name`, if the row reaches that far. -/
def cell? (x : RowContext) (name : String) : Option Value :=
  (x.result.columnIndex? name).bind fun i => x.row[i]?

/-- The value of a column that must be there. -/
def require (x : RowContext) (name : String) : Except ConversionError Value :=
  match x.cell? name with
  | some v => .ok v
  | none => .error (.missingColumn x.namespaceName name)

def demand {α : Type} (x : RowContext) (column : String) (v : Value) (reading : Option α) :
    Except ConversionError α :=
  match reading with
  | some a => .ok a
  | none => .error (.unparseable x.namespaceName column v.shown)

end RowContext

/-- A count that is not negative. -/
def bucketCount? (c : Int64) : Option UInt64 := if 0 ≤ c then some c.toUInt64 else none

/-- Buckets from bounds and their counts; a bound that comes again counts as it comes last. -/
def bucketsOf (bounds : List Float) (counts : List UInt64) : Dict Bound UInt64 :=
  (bounds.zip counts).foldl (fun d p => d.insert ⟨p.1⟩ p.2) .empty

/-- The histogram whose bounds stand in the column `column` with the value `bounds`. -/
def histogramOf (x : RowContext) (column : String) (bounds : Value) :
    Except ConversionError Histogram := do
  let keys ← x.demand column bounds bounds.numbers?
  let bucketName := column ++ "_bucket"
  let bucketValue ← x.require bucketName
  let counts ← x.demand bucketName bucketValue bucketValue.integers?
  let sumName := column ++ "_sum"
  let sumValue ← x.require sumName
  let sum ← x.demand sumName sumValue sumValue.number?
  let countName := column ++ "_count"
  let countValue ← x.require countName
  let count ← x.demand countName countValue countValue.count?
  if keys.length ≠ counts.length then
    .error (.bucketMismatch x.namespaceName column keys.length counts.length)
  else
    let counts ← x.demand bucketName bucketValue (counts.mapM bucketCount?)
    return ⟨bucketsOf keys counts, sum, count⟩

namespace Schema

/-- A cell whose column is one number. -/
def visitScalar (x : RowContext) (column : String) (rule : Rule) (v : Value) :
    Except Abort CellResult :=
  match rule.descriptor with
  | none => .ok .nothing
  | some d =>
    match rule.conversion.apply v with
    | .error a => .error a
    | .ok (.value n) => .ok (.metric (.scalar d rule.kind n x.labelValues))
    | .ok .skip => .ok .nothing
    | .ok (.failed shown) => .ok (.error (.unparseable x.namespaceName column shown))

/-- A cell whose column starts a histogram. -/
def visitHistogram (x : RowContext) (column : String) (rule : Rule) (v : Value) : CellResult :=
  match rule.descriptor with
  | none => .nothing
  | some d =>
    match histogramOf x column v with
    | .ok h => .metric ⟨d, x.labelValues, .histogram h⟩
    | .error e => .error e

/-- A cell whose column has no rule. -/
def visitUnknown (s : Schema) (x : RowContext) (column : String) (v : Value) : CellResult :=
  match v.number? with
  | some n =>
    .metric (.scalar (s.unknownDescriptor x.namespaceName column) .untyped n x.labelValues)
  | none => .error (.unknownColumn x.namespaceName column v.shown)

def visit (s : Schema) (x : RowContext) (column : String) (v : Value) : Except Abort CellResult :=
  match s.rules.get? column with
  | none => .ok (s.visitUnknown x column v)
  | some rule =>
    if rule.discard then .ok .nothing
    else if rule.histogram then .ok (visitHistogram x column rule v)
    else visitScalar x column rule v

/-- The label values of a row: a label column that is missing, or that the row does not reach,
gives an empty value. -/
def labelValues (s : Schema) (result : ResultSet) (row : List Value) : List String :=
  s.labels.map fun l =>
    match (result.columnIndex? l).bind fun i => row[i]? with
    | some v => v.label
    | none => ""

/-- What the cells of a row give. Cells beyond the columns, and columns beyond the row, give
nothing. -/
def convertRow (s : Schema) (namespaceName : String) (result : ResultSet) (row : List Value) :
    Except Abort (List CellResult) :=
  let x : RowContext := ⟨namespaceName, result, row, s.labelValues result row⟩
  (result.columns.zip row).mapM fun c => s.visit x c.1 c.2

/-- The metrics and errors of a result set. -/
def convert (s : Schema) (namespaceName : String) (result : ResultSet) : Except Abort Batch := do
  let rows ← result.rows.mapM (s.convertRow namespaceName result)
  return .ofCells rows.flatten

end Schema

end PgMetrics
