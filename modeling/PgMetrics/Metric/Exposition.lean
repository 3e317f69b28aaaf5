import PgMetrics.Decimal.Shortest
import PgMetrics.Fault.Basic
import PgMetrics.Metric.Family

/-!
# The text format

A family is written as a line of help, if it has one, a line with its type, and a line per number.
A histogram takes a line per bucket, one for the bucket without a bound if none was written, and
the sum and the count.

## Main definitions

* `Exposition.sampleLine`: one line.
* `Family.render`: one family; families without a name or without samples are refused.
* `Exposition.render`: the text of a list of families.
-/

namespace PgMetrics

namespace Exposition

/-- Escapes the backslash and the line feed, and the quote where the text stands between quotes. -/
def escape (quotes : Bool) (s : String) : String :=
  String.ofList (s.toList.flatMap fun c =>
    if c = '\\' then ['\\', '\\']
    else if c = '\n' then ['\\', 'n']
    else if quotes && c == '"' then ['\\', '"']
    else [c])

def pair (p : String × String) : String :=
  p.1 ++ "=\"" ++ escape true p.2 ++ "\""

/-- The labels between braces, or nothing where there are none. -/
def labelText (labels : List (String × String)) : String :=
  if labels.isEmpty then "" else "\x7b" ++ String.intercalate "," (labels.map pair) ++ "\x7d"

/-- One line: name, labels and value. -/
def sampleLine (name : String) (labels : List (String × String)) (value : Float) : String :=
  name ++ labelText labels ++ " " ++ floatText value ++ "\n"

/-- Whether a bound is the infinite one that holds every observation. -/
def isUnbounded (b : Bound) : Bool :=
  match Binary64.ofFloat b.value with
  | .infinite negative => !negative
  | _ => false

def histogramLines (name : String) (labels : List (String × String)) (h : Histogram) : String :=
  let bucket (le : String) (count : UInt64) : String :=
    sampleLine (name ++ "_bucket") (labels ++ [("le", le)]) count.toFloat
  let written := h.buckets.toList.map fun b => bucket (floatText b.1.value) b.2
  let last := if h.buckets.keys.any isUnbounded then [] else [bucket "+Inf" h.count]
  String.join (written ++ last) ++ sampleLine (name ++ "_sum") labels h.sum ++
    sampleLine (name ++ "_count") labels h.count.toFloat

end Exposition

/-- Why a text could not be written. -/
inductive RenderStop where
  | refused (e : ExpositionError)
  | aborted (a : Abort)

namespace Family

def heading (f : Family) : String :=
  (if f.help.isEmpty then ""
    else "# HELP " ++ f.name ++ " " ++ Exposition.escape false f.help ++ "\n") ++
    "# TYPE " ++ f.name ++ " " ++ f.type.name ++ "\n"

def sampleLines (f : Family) (s : Sample) : String :=
  match f.type with
  | .histogram => Exposition.histogramLines f.name s.labels s.histogramOrEmpty
  | type => Exposition.sampleLine f.name s.labels (s.scalarAs type)

/-- The text of a family. The format has no lines for an untyped family. -/
def render (f : Family) : Except RenderStop String :=
  if f.samples.isEmpty then .error (.refused (.emptyFamily f.name))
  else if f.name.isEmpty then .error (.refused .unnamedFamily)
  else if f.type = .untyped then .error (.aborted .untypedFamily)
  else .ok (f.heading ++ String.join (f.samples.map f.sampleLines))

end Family

/-- The text of a list of families; the first that cannot be written stops it. -/
def Exposition.render (families : List Family) : Except RenderStop String :=
  (families.mapM Family.render).map String.join

end PgMetrics
