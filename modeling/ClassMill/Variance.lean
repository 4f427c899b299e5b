import ClassMill.Decimal.Binary
import ClassMill.Random.Uniform

/-!
# Variance of base counts

A base count is perturbed by a drawn amount, up to a percentage of the base, in a drawn
direction. The percentage of a preset is capped first; the perturbed count is not, so it may
be negative, and leaving the range of 64-bit integers is a fault.
-/

namespace ClassMill

open ClassMill.Random

namespace Variance

/-- The cap on preset percentages where none is given. -/
def defaultCeiling : UInt32 := 20

/-- A percentage, at most the ceiling. -/
def clamp (percent ceiling : UInt32) : Float :=
  if ceiling < percent then ceiling.toFloat else percent.toFloat

/-- The largest 64-bit integer. -/
def countLimit : Nat := (1 <<< 63) - 1

/-- The largest perturbation: the given percentage of the base, rounded down, at least zero. -/
def magnitude (base : Int64) (percent : Float) : Nat :=
  (Decimal.Binary.ofFloat (Float.ofInt base.toInt * percent / 100.0)).floorUpTo countLimit

/-- The base moved by `delta` in one of the directions `0` (down), `1` (not at all) and
`2` (up). -/
def moved (base : Int64) (delta direction : Nat) : Int :=
  base.toInt + delta * ((direction : Int) - 1)

/-- Draws an amount and a direction and moves the base. -/
def sample (base : Int64) (percent : Float) : Draw Int64 := do
  let delta ← Draw.upTo (magnitude base percent)
  let direction ← Draw.upTo 2
  let value := moved base delta direction
  if Int64.minValue.toInt ≤ value ∧ value ≤ Int64.maxValue.toInt then
    return Int64.ofInt value
  else Draw.fault .addOverflow

/-- A perturbed count: the base is taken as at most the largest 64-bit integer, and a
negative result as zero. -/
def count (base : UInt64) (percent : Float) : Draw Nat :=
  return (← sample (Int64.ofNat (min base.toNat countLimit)) percent).toInt.toNat

end Variance

end ClassMill
