import PgMetrics.Dict
import PgMetrics.Fault.Scrape
import PgMetrics.Time.SpanText
import PgMetrics.Value.Basic

/-!
# Conversions

How the value of a column becomes a number.

## Main definitions

* `Conversion`, `Converted`.
* `Conversion.apply`: the number, a value to pass over, or the text of a value that has none. A
  written span may abort the conversion.
-/

namespace PgMetrics

/-- The way from a value to a number. -/
inductive Conversion where
  /-- The column is consumed and reads as NaN. -/
  | discard
  /-- The numeric reading. -/
  | numeric
  /-- The number that a text stands for. -/
  | mapped (table : Dict String Float)
  /-- The milliseconds of a written span; `-1` means that none is set. -/
  | durationMillis
  /-- The bounds of a histogram, which are read together with its other columns. -/
  | histogram

/-- What a conversion gives. -/
inductive Converted where
  | value (x : Float)
  /-- Nothing to export, and nothing wrong. -/
  | skip
  /-- No number; the text shows the value. -/
  | failed (shown : String)

/-- The text that marks a span as not set. -/
def unsetSpan : String := "-1"

/-- The milliseconds of a written span. -/
def convertSpan (label : String) : Except Abort Converted :=
  if label = unsetSpan then .ok .skip
  else
    match Span.parse label.toList with
    | .ok s => .ok (.value s.millis)
    | .error .malformed => .ok (.failed label)
    | .error .carryOverflow => .error .spanOverflow

def Conversion.apply (c : Conversion) (v : Value) : Except Abort Converted :=
  match c with
  | .discard => .ok (.value (0.0 / 0.0))
  | .numeric =>
    match v.number? with
    | some x => .ok (.value x)
    | none => .ok (.failed v.shown)
  | .mapped table =>
    match v.text?.bind table.get? with
    | some x => .ok (.value x)
    | none => .ok (.failed v.shown)
  | .durationMillis => convertSpan v.label
  | .histogram => .ok (.failed v.shown)

end PgMetrics
