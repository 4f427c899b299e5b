import ClassMill.Decimal.Reader

/-!
# Spellings of numbers

Integers are decimal, hexadecimal, binary or octal, with underscores anywhere but in front of
the digits; a sign is admitted for signed types only. Reals are words for infinity and for an
undefined value, or decimal text without underscores.
-/

namespace ClassMill.Ron.Number

/-- The base that a spelling announces, and the digits after the announcement. -/
def splitBase : List Char → Nat × List Char
  | '0' :: 'x' :: digits => (16, digits)
  | '0' :: 'b' :: digits => (2, digits)
  | '0' :: 'o' :: digits => (8, digits)
  | digits => (10, digits)

/-- The value of a digit, in base sixteen. -/
def digitValue? (c : Char) : Option Nat :=
  if c.isDigit then some (c.toNat - '0'.toNat)
  else if 'a' ≤ c ∧ c ≤ 'f' then some (c.toNat - 'a'.toNat + 10)
  else if 'A' ≤ c ∧ c ≤ 'F' then some (c.toNat - 'A'.toNat + 10)
  else none

/-- Continues a number by digits of a base, skipping underscores. -/
def continueDigits (base : Nat) : Nat → List Char → Option Nat
  | n, [] => some n
  | n, c :: digits =>
    if c = '_' then continueDigits base n digits
    else
      match digitValue? c with
      | some d => if d < base then continueDigits base (n * base + d) digits else none
      | none => none

/-- A nonempty run of digits that does not start with an underscore. -/
def readDigits (base : Nat) : List Char → Option Nat
  | [] => none
  | c :: digits => if c = '_' then none else continueDigits base 0 (c :: digits)

/-- A natural number without a sign. -/
def readNatural (spelling : List Char) : Option Nat :=
  readDigits (splitBase spelling).1 (splitBase spelling).2

/-- A natural number of at most `limit`. -/
def readUpTo (limit : Nat) (spelling : List Char) : Option Nat :=
  (readNatural spelling).filter (· ≤ limit)

/-- An integer with an optional sign. -/
def readInteger (spelling : List Char) : Option Int :=
  let (negative, digits) := Decimal.splitSign spelling
  (readNatural digits).map fun n => if negative then -(n : Int) else n

/-- An integer between two bounds. -/
def readBetween (low high : Int) (spelling : List Char) : Option Int :=
  (readInteger spelling).filter fun n => low ≤ n && n ≤ high

/-- Whether a character may stand in the decimal text of a real. -/
def isRealChar (c : Char) : Bool :=
  c.isDigit || c = 'e' || c = 'E' || c = '.' || c = '+' || c = '-'

/-- A real number. -/
def readReal (spelling : List Char) : Option Float :=
  let (_, magnitude) := Decimal.splitSign spelling
  if magnitude = ['i', 'n', 'f'] || magnitude = ['N', 'a', 'N'] then Decimal.readFloat spelling
  else if spelling.all isRealChar then Decimal.readFloat spelling
  else none

/-- Whether a spelling is a number of some type: an integer of 64 bits or a real. -/
def isNumber (spelling : List Char) : Bool :=
  (readUpTo (UInt64.size - 1) spelling).isSome ||
    (readBetween Int64.minValue.toInt Int64.maxValue.toInt spelling).isSome ||
    (readReal spelling).isSome

end ClassMill.Ron.Number
