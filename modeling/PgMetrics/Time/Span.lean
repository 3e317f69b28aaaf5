/-!
# Spans of time

A span counts whole seconds in 64 bits and the nanoseconds beyond them.

## Main definitions

* `Span.total`: the span in nanoseconds.
* `Span.scale`: a multiple of a span, the greatest span where the multiple does not fit.
* `Span.millis`: the span in milliseconds, as a double.
-/

namespace PgMetrics

def nanosPerSecond : Nat := 1000000000

/-- A length of time. -/
structure Span where
  seconds : UInt64
  nanos : Fin 1000000000
  deriving DecidableEq

namespace Span

def zero : Span := ⟨0, ⟨0, by decide⟩⟩

instance : Inhabited Span := ⟨zero⟩

def greatest : Span := ⟨UInt64.ofNat (UInt64.size - 1), ⟨999999999, by decide⟩⟩

def total (s : Span) : Nat := s.seconds.toNat * nanosPerSecond + s.nanos.val

/-- Seconds and fewer nanoseconds than a second, if the seconds fit 64 bits. -/
def ofParts? (seconds nanos : Nat) : Option Span :=
  if seconds < UInt64.size then
    if h : nanos < 1000000000 then some ⟨UInt64.ofNat seconds, ⟨nanos, h⟩⟩ else none
  else none

/-- Seconds and nanoseconds, of which every full second is carried, if the seconds fit 64 bits. -/
def carried? (seconds nanos : Nat) : Option Span :=
  ofParts? (seconds + nanos / nanosPerSecond) (nanos % nanosPerSecond)

def ofMillis (n : UInt64) : Span :=
  ⟨n / 1000, ⟨n.toNat % 1000 * 1000000, by have := Nat.mod_lt n.toNat (y := 1000); omega⟩⟩

/-- `n` times the span: the nanoseconds are multiplied and carried into the multiplied seconds, and
if the seconds do not fit the result is the greatest span. -/
def scale (s : Span) (n : Nat) : Span :=
  let product := s.nanos.val * n
  let carry := product / nanosPerSecond
  let seconds := s.seconds.toNat * n
  if seconds < UInt64.size then
    (ofParts? (seconds + carry) (product % nanosPerSecond)).getD greatest
  else greatest

/-- The span in milliseconds, computed through seconds. -/
def millis (s : Span) : Float :=
  (s.seconds.toFloat + s.nanos.val.toUInt64.toFloat / 1e9) * 1000.0

/-- Whether `a` is at most `b`. -/
def le (a b : Span) : Bool := a.total ≤ b.total

end Span

end PgMetrics
