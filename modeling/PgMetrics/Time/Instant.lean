import PgMetrics.Text.Number
import PgMetrics.Time.Span

/-!
# Points in time

An instant counts whole seconds from the start of 1970 in UTC; its nanoseconds count forward from
there, also before 1970. A day has 86400 seconds. The inside of a leap second, which a calendar may
write as a second with a thousand million nanoseconds or more, is no instant; the system's clock
never shows it.

## Main definitions

* `Instant.nanoseconds`: the instant in nanoseconds.
* `Instant.millisSince`: whole milliseconds between two instants, toward zero.
* `Instant.label`: the nanoseconds in decimal, where they fit 64 bits.
-/

namespace PgMetrics

/-- A point in time that is not inside a leap second. -/
structure Instant where
  seconds : Int
  nanos : Fin 1000000000
  deriving DecidableEq

namespace Instant

instance : Inhabited Instant := ⟨⟨0, Span.zero.nanos⟩⟩

/-- The instant in nanoseconds since the start of 1970. -/
def nanoseconds (t : Instant) : Int := t.seconds * nanosPerSecond + t.nanos.val

/-- The whole milliseconds from `past` to `now`; a part of a millisecond is dropped toward zero. -/
def millisSince (now past : Instant) : Int :=
  (now.nanoseconds - past.nanoseconds).tdiv 1000000

/-- The instant as a label: its nanoseconds, or nothing where they do not fit 64 bits. -/
def label (t : Instant) : List Char :=
  let n := t.nanoseconds
  if Int64.minValue.toInt ≤ n ∧ n ≤ Int64.maxValue.toInt then Text.integer n else []

end Instant

end PgMetrics
