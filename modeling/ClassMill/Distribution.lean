import ClassMill.Random.Uniform

/-!
# Integer distributions

A policy describes counts and literals by distributions: an inclusive uniform range or a
constant. A range may be inverted, in which case sampling it is a fault; `within` is the test
that all samples exist and lie between two bounds.
-/

namespace ClassMill

open ClassMill.Random

/-- A distribution over words. -/
inductive Distribution
  /-- The inclusive range from `low` to `high`. -/
  | uniform (low high : UInt64)
  | const (value : UInt64)
  deriving DecidableEq

namespace Distribution

/-- A uniform distribution whose ends must be in order. -/
def ordered (low high : UInt64) : Except Fault Distribution :=
  if low ≤ high then .ok (.uniform low high) else .error .unorderedBounds

/-- The least value. -/
def low : Distribution → UInt64
  | .uniform low _ => low
  | .const value => value

/-- The greatest value. -/
def high : Distribution → UInt64
  | .uniform _ high => high
  | .const value => value

/-- Draws a value; a constant draws nothing. -/
def sample : Distribution → Draw UInt64
  | .uniform low high => Draw.between low high
  | .const value => pure value

/-- Whether the distribution is not inverted and lies between two bounds. -/
def within (d : Distribution) (low high : UInt64) : Bool :=
  d.low ≤ d.high && low ≤ d.low && d.high ≤ high

end Distribution

end ClassMill
