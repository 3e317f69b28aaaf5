import PgMetrics.Text.Blank
import PgMetrics.Text.Number

/-!
# Dates and times of TOML

A moment is a date, a time of day, or both, and with both there may be a distance from universal
time. A date is one of the Gregorian calendar. The last minute of a day may have a leap second.

## Main definitions

* `isDate`, `isTime`: the two parts on their own.
* `isMoment`: whether a word is a moment.
-/

namespace PgMetrics.Toml

/-- The number that exactly `places` digits stand for. -/
def fixed? (places : Nat) (s : List Char) : Option Nat :=
  if s.length = places then Text.natural? s else none

/-- The last day of a month. -/
def lastDay (year month : Nat) : Nat :=
  if month = 2 then
    if year % 4 = 0 ∧ (year % 100 ≠ 0 ∨ year % 400 = 0) then 29 else 28
  else if month = 4 ∨ month = 6 ∨ month = 9 ∨ month = 11 then 30
  else 31

/-- Whether the text is a date. -/
def isDate (s : List Char) : Bool :=
  match Text.pieces (· == '-') s with
  | [year, month, day] =>
    match fixed? 4 year, fixed? 2 month, fixed? 2 day with
    | some y, some m, some d => 1 ≤ m && m ≤ 12 && 1 ≤ d && d ≤ lastDay y m
    | _, _, _ => false
  | _ => false

/-- Whether the text is a number of two digits up to `greatest`. -/
def isPart (greatest : Nat) (s : List Char) : Bool :=
  match fixed? 2 s with
  | some n => n ≤ greatest
  | none => false

/-- Whether the text gives the seconds of a minute, with or without a fraction. -/
def isSeconds (s : List Char) : Bool :=
  match Text.pieces (· == '.') s with
  | [whole] => isPart 60 whole
  | [whole, fraction] => isPart 60 whole && (Text.natural? fraction).isSome
  | _ => false

/-- Whether the text is a time of day. -/
def isTime (s : List Char) : Bool :=
  match Text.pieces (· == ':') s with
  | [hours, minutes, seconds] => isPart 23 hours && isPart 59 minutes && isSeconds seconds
  | _ => false

/-- Whether the text is a distance of hours and minutes. -/
def isDistance (s : List Char) : Bool :=
  match Text.pieces (· == ':') s with
  | [hours, minutes] => isPart 23 hours && isPart 59 minutes
  | _ => false

/-- Whether the text is a time of day with or without a distance from universal time. -/
def isZonedTime (s : List Char) : Bool :=
  let (time, zone) := s.span fun c => c.isDigit || c == ':' || c == '.'
  isTime time &&
    match zone with
    | [] => true
    | ['Z'] => true
    | ['z'] => true
    | '+' :: distance => isDistance distance
    | '-' :: distance => isDistance distance
    | _ => false

/-- Whether the text is a date that is followed directly by a time. -/
def isDateAndTime (s : List Char) : Bool :=
  let (date, time) := s.span fun c => c.isDigit || c == '-'
  isDate date &&
    match time with
    | 'T' :: time => isZonedTime time
    | 't' :: time => isZonedTime time
    | _ => false

/-- Whether a word is a moment. -/
def isMoment (s : List Char) : Bool := isDate s || isTime s || isDateAndTime s

end PgMetrics.Toml
