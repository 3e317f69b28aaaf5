/-!
# Sets of code points

A set of code points is a list of closed ranges in ascending order, as the Unicode tables give them.

## Main definitions

* `CodePoints.contains`: membership.
-/

namespace PgMetrics.Text

/-- A set of code points as closed ranges. -/
abbrev CodePoints := List (Nat × Nat)

/-- Whether `n` lies in one of the ranges. -/
def CodePoints.contains (ranges : CodePoints) (n : Nat) : Bool :=
  ranges.any fun r => r.1 ≤ n && n ≤ r.2

end PgMetrics.Text
