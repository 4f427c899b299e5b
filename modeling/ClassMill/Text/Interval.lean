/-!
# Sets of code points

A set of code points is given by its maximal intervals, both ends included, in ascending order.
-/

namespace ClassMill.Text

/-- The code points from the first to the second number. -/
abbrev Interval := Nat × Nat

/-- Whether a code point lies in one of the intervals. -/
def inIntervals (intervals : List Interval) (code : Nat) : Bool :=
  intervals.any fun interval => interval.1 ≤ code && code ≤ interval.2

end ClassMill.Text
