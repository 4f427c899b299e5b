/-!
# Faults of generation

Generating a class can stop for a small number of arithmetic and sampling reasons. Each
reason is one constructor of `Fault`, and its wording is fixed once in `Fault.message`.
A generation may also give up after a bounded number of redraws; `Halt` keeps the two apart.
-/

namespace ClassMill

/-- The reasons for which a generation stops without a value. -/
inductive Fault
  /-- A sum left the range of its word type. -/
  | addOverflow
  /-- A difference left the range of its word type. -/
  | subOverflow
  /-- A uniform integer range was sampled although its low end exceeds its high end. -/
  | invertedRange
  /-- A uniform distribution was requested although its low end exceeds its high end. -/
  | unorderedBounds
  /-- A chance outside the unit interval was sampled. -/
  | invalidProbability
  /-- A half-open real range without elements was sampled. -/
  | emptyRange
  /-- The low end of a sampled real range is infinite. -/
  | lowNotFinite
  /-- The high end of a sampled real range is infinite. -/
  | highNotFinite
  /-- The width of a sampled real range is infinite. -/
  | spanNotFinite
  /-- A text or list longer than addressable storage was requested. -/
  | capacityOverflow
  deriving DecidableEq

/-- The wording of a fault. -/
def Fault.message : Fault → String
  | .addOverflow => "attempt to add with overflow"
  | .subOverflow => "attempt to subtract with overflow"
  | .invertedRange => "Uniform::new_inclusive called with `low > high`"
  | .unorderedBounds => "assertion failed: low <= high"
  | .invalidProbability => "called `Result::unwrap()` on an `Err` value: InvalidProbability"
  | .emptyRange => "cannot sample empty range"
  | .lowNotFinite => "UniformSampler::sample_single called with `low` non-finite."
  | .highNotFinite => "UniformSampler::sample_single called with `high` non-finite."
  | .spanNotFinite => "UniformSampler::sample_single: range overflow"
  | .capacityOverflow => "capacity overflow"

/-- Why a draw ended without a value: a fault, or no accepted candidate within the permitted
number of attempts. -/
inductive Halt
  | fault (reason : Fault)
  | outOfAttempts
  deriving DecidableEq

/-- The sum of two words, a fault where it does not fit. -/
def checkedAdd (a b : UInt64) : Except Fault UInt64 :=
  if a.toNat + b.toNat < UInt64.size then .ok (a + b) else .error .addOverflow

/-- The largest number of bytes that one text or list may occupy. -/
def storageLimit : Nat := (1 <<< 63) - 1

/-- Admits `count` items of `size` bytes each if they fit into storage. -/
def reserve (count size : Nat) : Except Fault Unit :=
  if count * size ≤ storageLimit then .ok () else .error .capacityOverflow

end ClassMill
