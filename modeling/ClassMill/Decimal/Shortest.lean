import ClassMill.Decimal.Binary

/-!
# Shortest decimals

A positive float is the nearest float to every real of an interval around it. Its shortest
decimal is found on grids of step `10 ^ s` for descending `s`: the first grid with a point in
the interval next to the value wins, of two such points the nearer, and of two equally near
ones the greater. All comparisons are between natural numbers, in units of a quarter of the
spacing above the value.
-/

namespace ClassMill.Decimal

/-- The number `digits * 10 ^ exponent`. -/
structure Digits where
  digits : Nat
  exponent : Int
  deriving DecidableEq

namespace Shortest

/-- The distance to the lower end of the interval, in quarters of `2 ^ exponent`: half as far
where the floats below the value are twice as dense. -/
def below (mantissa : Nat) (exponent : Int) : Nat :=
  if mantissa = 1 <<< 52 ∧ -1074 < exponent then 1 else 2

/-- Whether the point `candidate * 10 ^ step` reads back as the float. Both sides are scaled
by the denominators of the two powers. -/
def readsBack (mantissa : Nat) (exponent step : Int) (candidate : Nat) : Bool :=
  let point := (candidate * Nat.pow 10 step.toNat) <<< (2 - exponent).toNat
  let unit := Nat.pow 10 (-step).toNat <<< (exponent - 2).toNat
  let lower := (4 * mantissa - below mantissa exponent) * unit
  let upper := (4 * mantissa + 2) * unit
  if mantissa % 2 = 0 then lower ≤ point && point ≤ upper else lower < point && point < upper

/-- The greatest point of a grid that is not above the value. -/
def floorOn (mantissa : Nat) (exponent step : Int) : Nat :=
  4 * mantissa * (Nat.pow 10 (-step).toNat <<< (exponent - 2).toNat) /
    (Nat.pow 10 step.toNat <<< (2 - exponent).toNat)

/-- Whether the point above the floor is at least as near to the value as the floor. -/
def ceilingNearer (mantissa : Nat) (exponent step : Int) : Bool :=
  let value := 4 * mantissa * (Nat.pow 10 (-step).toNat <<< (exponent - 2).toNat)
  let spacing := Nat.pow 10 step.toNat <<< (2 - exponent).toNat
  (2 * floorOn mantissa exponent step + 1) * spacing ≤ 2 * value

/-- The point of a grid that is chosen for the value, if one reads back. -/
def onGrid (mantissa : Nat) (exponent step : Int) : Option Nat :=
  let floor := floorOn mantissa exponent step
  match readsBack mantissa exponent step floor, readsBack mantissa exponent step (floor + 1) with
  | true, true => some (if ceilingNearer mantissa exponent step then floor + 1 else floor)
  | true, false => some floor
  | false, true => some (floor + 1)
  | false, false => none

/-- Tries `grids + 1` grids, from step `10 ^ step` to finer ones. -/
def descend (mantissa : Nat) (exponent : Int) : (grids : Nat) → (step : Int) → Digits
  | 0, step => ⟨floorOn mantissa exponent step, step⟩
  | grids + 1, step =>
    match onGrid mantissa exponent step with
    | some digits => ⟨digits, step⟩
    | none => descend mantissa exponent grids (step - 1)

/-- A step above the decimal logarithm of the value; coarser grids have no point to offer. -/
def firstStep (mantissa : Nat) (exponent : Int) : Int :=
  ((mantissa.log2 : Int) + 1 + exponent) * 30103 / 100000 + 2

end Shortest

/-- The shortest decimal that reads back as the positive float `mantissa * 2 ^ exponent`.
Seventeen digits always suffice, and fewer than twenty-four grids lie above them. -/
def shortest (mantissa : Nat) (exponent : Int) : Digits :=
  Shortest.descend mantissa exponent 24 (Shortest.firstStep mantissa exponent)

end ClassMill.Decimal
