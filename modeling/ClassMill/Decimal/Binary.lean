/-!
# The exact value of a float

A finite 64-bit float is a sign and a natural number times a power of two. `Binary` spells
this value out, so that rounding and printing are done in exact integer arithmetic.
-/

namespace ClassMill.Decimal

/-- The value that the bits of a float stand for. -/
inductive Binary
  | notANumber
  | infinite (negative : Bool)
  /-- The value `mantissa * 2 ^ exponent`, negated if `negative` holds. -/
  | finite (negative : Bool) (mantissa : Nat) (exponent : Int)
  deriving DecidableEq

namespace Binary

/-- Reads sign, exponent and mantissa fields. -/
def ofBits (bits : UInt64) : Binary :=
  let negative := decide (bits.toNat >>> 63 = 1)
  let field : Nat := (bits.toNat >>> 52) % (1 <<< 11)
  let fraction : Nat := bits.toNat % (1 <<< 52)
  if field = 2047 then
    if fraction = 0 then .infinite negative else .notANumber
  else if field = 0 then .finite negative fraction (-1074)
  else .finite negative (fraction + (1 <<< 52)) ((field : Int) - 1075)

/-- The value of a float. -/
def ofFloat (x : Float) : Binary := ofBits x.toBits

/-- The largest natural number not above the value, at most `cap`; zero for a value that is
not positive. -/
def floorUpTo (cap : Nat) : Binary → Nat
  | .notANumber => 0
  | .infinite negative => if negative then 0 else cap
  | .finite true _ _ => 0
  | .finite false mantissa (.ofNat shift) => min cap (mantissa <<< shift)
  | .finite false mantissa (.negSucc shift) => min cap (mantissa >>> (shift + 1))

/-- A capped floor never exceeds its cap. -/
theorem floorUpTo_le (cap : Nat) (x : Binary) : x.floorUpTo cap ≤ cap := by
  unfold floorUpTo
  split
  · exact Nat.zero_le _
  · split
    · exact Nat.zero_le _
    · exact Nat.le_refl _
  · exact Nat.zero_le _
  · exact Nat.min_le_left _ _
  · exact Nat.min_le_left _ _

end Binary

end ClassMill.Decimal
