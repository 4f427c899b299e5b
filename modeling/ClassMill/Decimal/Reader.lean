/-!
# Reading float text

Float text is an optional sign followed by a word for infinity or an undefined value, or by
digits with an optional point and exponent. At least one digit stands before the exponent. The
result is the nearest float, ties going to the even mantissa.
-/

namespace ClassMill.Decimal

/-- The natural number that a run of decimal digits spells. -/
def natOfDigits (digits : List Char) : Nat :=
  digits.foldl (fun n c => n * 10 + (c.toNat - '0'.toNat)) 0

/-- A nonempty run of digits and nothing else. -/
def readNat (text : List Char) : Option Nat :=
  if text.isEmpty || !text.all Char.isDigit then none else some (natOfDigits text)

/-- A sign, if there is one, and the text after it. -/
def splitSign : List Char → Bool × List Char
  | '-' :: text => (true, text)
  | '+' :: text => (false, text)
  | text => (false, text)

/-- An integer: an optional sign and a nonempty run of digits. -/
def readInt (text : List Char) : Option Int :=
  let (negative, digits) := splitSign text
  (readNat digits).map fun n => if negative then -(n : Int) else n

/-- The float nearest to `digits * 10 ^ exponent`. -/
def nearest (digits : Nat) : (exponent : Int) → Float
  | .ofNat up => Float.ofScientific digits false up
  | .negSucc down => Float.ofScientific digits true (down + 1)

/-- Digits with an optional point and exponent. -/
def readMagnitude (text : List Char) : Option Float := do
  let whole := text.takeWhile Char.isDigit
  let text := text.dropWhile Char.isDigit
  let (fraction, text) :=
    match text with
    | '.' :: text => (text.takeWhile Char.isDigit, text.dropWhile Char.isDigit)
    | text => ([], text)
  guard (!(whole ++ fraction).isEmpty)
  let exponent ←
    match text with
    | [] => some 0
    | mark :: text => if mark = 'e' || mark = 'E' then readInt text else none
  return nearest (natOfDigits (whole ++ fraction)) (exponent - fraction.length)

/-- The words for values without digits, in small letters. -/
def readWord (text : List Char) : Option Float :=
  let word := String.ofList (text.map Char.toLower)
  if word = "inf" || word = "infinity" then some (1.0 / 0.0)
  else if word = "nan" then some (0.0 / 0.0)
  else none

/-- Reads a float. -/
def readFloat (text : List Char) : Option Float :=
  let (negative, text) := splitSign text
  (readWord text <|> readMagnitude text).map fun x => if negative then -x else x

end ClassMill.Decimal
