import PgMetrics.Version.Basic

/-!
# Version ranges

A range is a conjunction of bounds, each a relation and a version; the empty conjunction holds of
every version. Two ranges are compared through the intervals that they span in a dense order, so a
gap without a version in it counts as inhabited.

## Main definitions

* `VersionBound.admits`, `VersionRange.admits`: which versions a range holds.
* `VersionInterval`: the span of a range, and `VersionRange.overlaps`.
* `VersionRange.parse`, `VersionRange.render`: the written form.
-/

namespace PgMetrics

/-- How a version has to stand to the version of a bound. -/
inductive Relation where
  | above | atLeast | below | atMost | equal
  deriving DecidableEq, Repr

def Relation.sign : Relation → List Char
  | .above => ['>']
  | .atLeast => ['>', '=']
  | .below => ['<']
  | .atMost => ['<', '=']
  | .equal => ['=']

/-- One condition of a range. -/
structure VersionBound where
  relation : Relation
  version : Version
  deriving DecidableEq, Repr

abbrev VersionRange := List VersionBound

/-- Why a text is no range. -/
inductive RangeError where
  /-- A word has no version after its sign. -/
  | noVersion (word : List Char)
  /-- No version can satisfy all bounds. -/
  | unsatisfiable (text : List Char)
  deriving DecidableEq, Repr

def RangeError.text : RangeError → List Char
  | .noVersion w => w
  | .unsatisfiable t => t

def RangeError.message : RangeError → String
  | .noVersion _ => "expected a version after the operator"
  | .unsatisfiable _ => "range can never match"

namespace VersionBound

def admits (b : VersionBound) (v : Version) : Bool :=
  let order := compare v b.version
  match b.relation with
  | .above => order == .gt
  | .atLeast => order != .lt
  | .below => order == .lt
  | .atMost => order != .gt
  | .equal => order == .eq

def render (b : VersionBound) : List Char := b.relation.sign ++ b.version.render

/-- The relation at the front of a word; without a sign it is equality. -/
def relationOf : List Char → Relation × List Char
  | '>' :: '=' :: s => (.atLeast, s)
  | '<' :: '=' :: s => (.atMost, s)
  | '>' :: s => (.above, s)
  | '<' :: s => (.below, s)
  | '=' :: s => (.equal, s)
  | s => (.equal, s)

def parse (word : List Char) : Except RangeError VersionBound :=
  match Version.parse? (relationOf word).2 with
  | some v => .ok ⟨(relationOf word).1, v⟩
  | none => .error (.noVersion word)

end VersionBound

/-- An end of an interval. -/
structure IntervalEnd where
  version : Version
  closed : Bool
  deriving DecidableEq, Repr

/-- The versions between two ends, either of which may be missing. -/
structure VersionInterval where
  lower : Option IntervalEnd
  upper : Option IntervalEnd
  deriving DecidableEq, Repr

namespace VersionInterval

def all : VersionInterval := ⟨none, none⟩

def ofBound (b : VersionBound) : VersionInterval :=
  match b.relation with
  | .above => ⟨some ⟨b.version, false⟩, none⟩
  | .atLeast => ⟨some ⟨b.version, true⟩, none⟩
  | .below => ⟨none, some ⟨b.version, false⟩⟩
  | .atMost => ⟨none, some ⟨b.version, true⟩⟩
  | .equal => ⟨some ⟨b.version, true⟩, some ⟨b.version, true⟩⟩

/-- The tighter of two ends, where `order` tells how the first stands to the second: `outer` is the
order in which the second end is the tighter one. -/
def tighter (outer : Ordering) (a b : Option IntervalEnd) : Option IntervalEnd :=
  match a, b with
  | some a, some b =>
    let order := compare a.version b.version
    if order = .eq then some ⟨a.version, a.closed && b.closed⟩
    else if order = outer then some b
    else some a
  | some a, none => some a
  | none, b => b

def meet (a b : VersionInterval) : VersionInterval :=
  ⟨tighter .lt a.lower b.lower, tighter .gt a.upper b.upper⟩

/-- Whether the ends leave nothing between them in a dense order. -/
def isEmpty (i : VersionInterval) : Bool :=
  match i.lower, i.upper with
  | some lo, some hi =>
    match compare lo.version hi.version with
    | .gt => true
    | .eq => !(lo.closed && hi.closed)
    | .lt => false
  | _, _ => false

end VersionInterval

namespace VersionRange

def admits (r : VersionRange) (v : Version) : Bool := r.all fun b => b.admits v

/-- The interval that the bounds leave. -/
def interval (r : VersionRange) : VersionInterval :=
  r.foldl (fun i b => i.meet (.ofBound b)) .all

/-- Whether the intervals of two ranges meet. -/
def overlaps (a b : VersionRange) : Bool := !(a.interval.meet b.interval).isEmpty

def any : VersionRange := []

def atLeast (v : Version) : VersionRange := [⟨.atLeast, v⟩]

def below (v : Version) : VersionRange := [⟨.below, v⟩]

/-- The versions from `lower` on and before `upper`. -/
def between (lower upper : Version) : VersionRange := [⟨.atLeast, lower⟩, ⟨.below, upper⟩]

/-- The bounds, each after a space but for the first. -/
def renderBounds : List VersionBound → List Char
  | [] => []
  | [b] => b.render
  | b :: rest => b.render ++ ' ' :: renderBounds rest

/-- The written form; the range without bounds is a star. -/
def render (r : VersionRange) : List Char := if r.isEmpty then ['*'] else renderBounds r

/-- The written form as a string. -/
def text (r : VersionRange) : String := String.ofList (render r)

/-- Reads bounds separated by blanks and refuses a range that nothing can satisfy. -/
def parse (s : List Char) : Except RangeError VersionRange := do
  let range ← (Text.words s).mapM VersionBound.parse
  if (interval range).isEmpty then .error (.unsatisfiable s) else .ok range

end VersionRange

end PgMetrics
