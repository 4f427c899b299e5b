import ClassMill.Random.Keystream

/-!
# Sources of random words

A source yields 32-bit and 64-bit words one after another. A keystream reads the words of its
blocks without gaps, so a 64-bit word is the next two 32-bit words with the low half first.
A stepper counts up by a fixed increment, which makes every sequence of equal steps available.
-/

namespace ClassMill.Random

/-- The state of a source of random words. -/
inductive Source
  /-- The blocks of a key from `counter` on, after the words still `pending`. -/
  | keystream (key : Key) (counter : UInt64) (pending : List UInt32)
  /-- The values `current`, `current + increment`, … modulo `2 ^ 64`. -/
  | stepper (current increment : UInt64)
  deriving DecidableEq

namespace Source

/-- The keystream of a seed, before its first word. -/
def ofSeed (seed : UInt64) : Source := .keystream (.ofSeed seed) 0 []

/-- The next word of a keystream, starting a block where none is pending. -/
def keystreamWord (key : Key) (counter : UInt64) : List UInt32 → UInt32 × Source
  | word :: pending => (word, .keystream key counter pending)
  | [] =>
    match key.block counter with
    | word :: pending => (word, .keystream key (counter + 1) pending)
    | [] => (0, .keystream key (counter + 1) [])

/-- Takes the next 32-bit word. -/
def next32 : Source → UInt32 × Source
  | .keystream key counter pending => keystreamWord key counter pending
  | .stepper current increment => (current.toUInt32, .stepper (current + increment) increment)

/-- Takes the next 64-bit word. -/
def next64 : Source → UInt64 × Source
  | .stepper current increment => (current, .stepper (current + increment) increment)
  | source =>
    let (low, source) := source.next32
    let (high, source) := source.next32
    (high.toUInt64 <<< 32 ||| low.toUInt64, source)

end Source

end ClassMill.Random
