import PgMetrics.Text.Blank
import PgMetrics.Text.Number
import PgMetrics.Time.Span

/-!
# Spans written in words

A written span is a sequence of terms, each a number and a unit: `1h 30min`, `2.5s`. Blanks may
stand anywhere, also between the digits of a number, but not inside a unit. A fraction is admitted
where it comes out even: in nanoseconds for units up to the minute, in seconds from the hour on. A
zero alone is no time at all.

## Main definitions

* `SpanUnit`, `SpanUnit.ofName?`: the units and their names.
* `Span.add`: one term added to a running sum.
* `Span.parse`: the span that a text stands for, in most cases the sum of its terms.
-/

namespace PgMetrics

/-- Units of time. -/
inductive SpanUnit where
  | nanosecond | microsecond | millisecond | second | minute | hour | day | week | month | year
  deriving DecidableEq, Repr

namespace SpanUnit

/-- The unit with the given name. -/
def ofName? (name : String) : Option SpanUnit :=
  if name ∈ ["nanos", "nsec", "ns"] then some .nanosecond
  else if name ∈ ["usec", "us", "µs"] then some .microsecond
  else if name ∈ ["millis", "msec", "ms"] then some .millisecond
  else if name ∈ ["seconds", "second", "secs", "sec", "s"] then some .second
  else if name ∈ ["minutes", "minute", "min", "mins", "m"] then some .minute
  else if name ∈ ["hours", "hour", "hr", "hrs", "h"] then some .hour
  else if name ∈ ["days", "day", "d"] then some .day
  else if name ∈ ["weeks", "week", "wk", "wks", "w"] then some .week
  else if name ∈ ["months", "month", "M"] then some .month
  else if name ∈ ["years", "year", "yr", "yrs", "y"] then some .year
  else none

/-- How a whole number of the unit counts: the multiplier, and whether it gives seconds. -/
def whole : SpanUnit → Nat × Bool
  | .nanosecond => (1, false)
  | .microsecond => (1000, false)
  | .millisecond => (1000000, false)
  | .second => (1, true)
  | .minute => (60, true)
  | .hour => (3600, true)
  | .day => (86400, true)
  | .week => (604800, true)
  | .month => (2630016, true)
  | .year => (31557600, true)

/-- How a fraction of the unit counts; a nanosecond has none. -/
def fraction? : SpanUnit → Option (Nat × Bool)
  | .nanosecond => none
  | .second => some (1000000000, false)
  | .minute => some (60000000000, false)
  | u => some u.whole

end SpanUnit

/-- Why a text gives no span. -/
inductive SpanError where
  /-- The text is not a sequence of terms, or a term does not fit. -/
  | malformed
  /-- The carry of the nanoseconds does not fit the seconds. -/
  | carryOverflow
  deriving DecidableEq, Repr

namespace Span

/-- A natural number that fits 64 bits. -/
def checked (n : Nat) : Except SpanError Nat :=
  if n < UInt64.size then .ok n else .error .malformed

/-- Adds seconds and nanoseconds to a span. Nanoseconds are carried once they exceed a second; a
full second of them is carried last, where the seconds may overflow. -/
def add (s : Span) (seconds nanos : Nat) : Except SpanError Span := do
  let nanos ← checked (s.nanos.val + nanos)
  let carries := nanosPerSecond < nanos
  let seconds ← if carries then checked (seconds + nanos / nanosPerSecond) else .ok seconds
  let nanos := if carries then nanos % nanosPerSecond else nanos
  let seconds ← checked (s.seconds.toNat + seconds)
  match carried? seconds nanos with
  | some t => .ok t
  | none => .error .carryOverflow

/-- Adds a count of something that is worth `factor` seconds or nanoseconds. -/
def addCount (s : Span) (count : Nat) (factor : Nat × Bool) : Except SpanError Span := do
  let n ← checked (count * factor.1)
  if factor.2 then s.add n 0 else s.add 0 n

/-- A decimal fraction: the digits after the point over a power of ten. -/
structure Fraction where
  numerator : Nat
  denominator : Nat

/-- Adds a fraction of a unit, which must come out even. -/
def addFraction (s : Span) (f : Fraction) (factor : Nat × Bool) : Except SpanError Span := do
  let n ← checked (f.numerator * factor.1)
  if n % f.denominator = 0 then
    if factor.2 then s.add (n / f.denominator) 0 else s.add 0 (n / f.denominator)
  else .error .malformed

def addTerm (s : Span) (count : Nat) (fraction : Option Fraction) (unit : List Char) :
    Except SpanError Span := do
  match SpanUnit.ofName? (String.ofList unit) with
  | none => .error .malformed
  | some u =>
    let s ← s.addCount count u.whole
    match fraction, u.fraction? with
    | none, _ => .ok s
    | some f, some factor => s.addFraction f factor
    | some _, none => .error .malformed

/-- Where the reader stands within a term. -/
inductive Stage where
  /-- Before the first digit of a term; `true` once a term has been read. -/
  | before (any : Bool)
  /-- Within the whole part. -/
  | number (n : Nat)
  /-- Within the fraction, of which at least the point has been read. -/
  | fraction (n : Nat) (f : Fraction)
  /-- Within the unit, whose letters are kept in reverse. -/
  | unit (n : Nat) (f : Option Fraction) (letters : List Char)

/-- Whether `c` may stand in the name of a unit. -/
def isUnitLetter (c : Char) : Bool := c.isAlpha || c == 'µ'

def step (s : Span) (stage : Stage) (c : Char) : Except SpanError (Span × Stage) :=
  match stage with
  | .before any =>
    match Text.digit? c with
    | some d => .ok (s, .number d)
    | none => if Text.isBlank c then .ok (s, .before any) else .error .malformed
  | .number n =>
    match Text.digit? c with
    | some d => do
      let m ← checked (10 * n + d)
      return (s, .number m)
    | none =>
      if Text.isBlank c then .ok (s, .number n)
      else if c = '.' then .ok (s, .fraction n ⟨0, 1⟩)
      else if isUnitLetter c then .ok (s, .unit n none [c])
      else .error .malformed
  | .fraction n f =>
    match Text.digit? c with
    | some d => do
      let denominator ← checked (10 * f.denominator)
      let numerator ← checked (10 * f.numerator + d)
      return (s, .fraction n ⟨numerator, denominator⟩)
    | none =>
      if Text.isBlank c then .ok (s, .fraction n f)
      else if isUnitLetter c ∧ f.denominator ≠ 1 then .ok (s, .unit n (some f) [c])
      else .error .malformed
  | .unit n f letters =>
    match Text.digit? c with
    | some d => do
      let t ← s.addTerm n f letters.reverse
      return (t, .number d)
    | none =>
      if Text.isBlank c then do
        let t ← s.addTerm n f letters.reverse
        return (t, .before true)
      else if isUnitLetter c then .ok (s, .unit n f (c :: letters))
      else .error .malformed

def finish (s : Span) : Stage → Except SpanError Span
  | .before true => .ok s
  | .unit n f letters => s.addTerm n f letters.reverse
  | _ => .error .malformed

/-- The sum of the terms of a text. -/
def parseTerms (text : List Char) : Except SpanError Span := do
  let (s, stage) ← text.foldlM (fun (p : Span × Stage) c => step p.1 p.2 c) (zero, .before false)
  finish s stage

/-- The span that a text stands for. A single zero needs no unit. -/
def parse (text : List Char) : Except SpanError Span :=
  if text = ['0'] then .ok zero else parseTerms text

end Span

end PgMetrics
