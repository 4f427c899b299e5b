import ClassMill.Refusal
import ClassMill.Text.Blank

/-!
# Complexity tiers

A tier names base counts of methods and properties and how far they may vary. Tiers are read
up to surrounding blanks, the case of ASCII letters and the use of dashes for underscores.
-/

namespace ClassMill

/-- The base counts and variance percentages of a generator. -/
structure Preset where
  baseMethods : UInt64
  baseProperties : UInt64
  methodVariance : UInt32
  propertyVariance : UInt32
  deriving DecidableEq

/-- The complexity tiers. -/
inductive Complexity
  | simple
  | complex
  | gordianKnot
  deriving DecidableEq

namespace Complexity

/-- The tiers in order. -/
def all : List Complexity := [.simple, .complex, .gordianKnot]

/-- The name of a tier. -/
def name : Complexity → String
  | .simple => "SIMPLE"
  | .complex => "COMPLEX"
  | .gordianKnot => "GORDIAN_KNOT"

/-- The counts of a tier. -/
def preset : Complexity → Preset
  | .simple => ⟨5, 3, 10, 10⟩
  | .complex => ⟨15, 10, 20, 20⟩
  | .gordianKnot => ⟨25, 20, 25, 25⟩

/-- Replaces small ASCII letters by capitals and dashes by underscores. -/
def normalChar (c : Char) : Char := if c = '-' then '_' else c.toUpper

/-- A text without surrounding blanks, in the spelling of tier names. -/
def normal (text : String) : String :=
  String.ofList ((Text.trim text.toList).map normalChar)

/-- Reads the name of a tier. -/
def parse (text : String) : Except Refusal Complexity :=
  match all.find? fun tier => tier.name = normal text with
  | some tier => .ok tier
  | none => .error (.unknownComplexity text)

end Complexity

/-- Admits a positive number of classes. -/
def classCount (count : Int64) : Except Refusal Nat :=
  if count ≤ 0 then .error (.invalidCount count) else .ok count.toInt.toNat

end ClassMill
