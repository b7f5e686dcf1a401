/-! Sets of code points written as closed ranges, ascending and apart. Membership stops at the
first range that begins above the code point, so a table is as good as a search. -/
namespace NumberingPlan.Text

/-- Closed ranges of code points, ascending and apart. -/
abbrev CodePoints := List (Nat × Nat)

/-- Whether a code point lies in one of the ranges. -/
def CodePoints.has : CodePoints → Nat → Bool
  | [], _ => false
  | (low, high) :: rest, n => if n < low then false else n ≤ high || CodePoints.has rest n

end NumberingPlan.Text
