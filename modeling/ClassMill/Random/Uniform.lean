import ClassMill.Random.Draw

/-!
# Uniform draws

A word `v` of `b` bits is scaled to a range of `n` values by the upper half of `v * n`; its
lower half must lie in an acceptance zone, or another word is drawn. Indices and small spans
use the zone that a shift gives, integer ranges the largest zone that `n` divides evenly.
Chances compare a word with a threshold, and reals fill the mantissa of a float.
-/

namespace ClassMill.Random

/-- Scales a word of `bits` bits to `[0, range)` if its low half lies in the zone. -/
def scaled (bits range zone word : Nat) : Option Nat :=
  if word * range % (1 <<< bits) ≤ zone then some ((word * range) >>> bits) else none

/-- The zone that shifts a nonzero range up to the top bit. -/
def shiftedZone (bits range : Nat) : Nat := (range <<< (bits - 1 - range.log2)) - 1

/-- The largest zone whose size is a multiple of the range. -/
def evenZone (bits range : Nat) : Nat := (1 <<< bits) - 1 - ((1 <<< bits) - range) % range

namespace Draw

/-- An index below `n`, for `0 < n < 2 ^ 32`, from 32-bit words. -/
def index (n : Nat) : Draw Nat :=
  redraw word32 fun word => scaled 32 n (shiftedZone 32 n) word.toNat

/-- One element of a list, drawn uniformly; an empty list draws nothing. -/
def choose {α : Type} (items : List α) : Draw (Option α) :=
  if items.isEmpty then Pure.pure none else return items[← index items.length]?

/-- One element of a nonempty list given by its head and tail. -/
def pick {α : Type} (first : α) (others : List α) : Draw α :=
  return (← choose (first :: others)).getD first

/-- A natural number up to `n`, for `n < 2 ^ 64 - 1`, from 64-bit words. -/
def upTo (n : Nat) : Draw Nat :=
  redraw word64 fun word => scaled 64 (n + 1) (shiftedZone 64 (n + 1)) word.toNat

/-- An integer of the inclusive range from `low` to `high`. -/
def between (low high : UInt64) : Draw UInt64 :=
  if high < low then fault .invertedRange
  else
    let range := high.toNat - low.toNat + 1
    if range = UInt64.size then word64
    else do
      let offset ← redraw word64 fun word => scaled 64 range (evenZone 64 range) word.toNat
      return low + UInt64.ofNat offset

/-- True with the given probability; certainty draws nothing. -/
def chance (probability : Float) : Draw Bool :=
  if probability == 1.0 then Pure.pure true
  else if 0.0 ≤ probability ∧ probability < 1.0 then
    return (← word64) < (probability * 18446744073709551616.0).toUInt64
  else fault .invalidProbability

/-- The real number of `[0, 1)` that the upper 52 bits of a word spell. -/
def unitReal (word : UInt64) : Float :=
  Float.ofBits (word >>> 12 ||| 0x3FF0000000000000) - 1.0

/-- A real number of the half-open range from `low` to `high`. -/
def real (low high : Float) : Draw Float :=
  if ¬ low < high then fault .emptyRange
  else if ¬ low.isFinite then fault .lowNotFinite
  else if ¬ high.isFinite then fault .highNotFinite
  else if ¬ (high - low).isFinite then fault .spanNotFinite
  else redraw word64 fun word =>
    let value := unitReal word * (high - low) + low
    if value < high then some value else none

end Draw

end ClassMill.Random
