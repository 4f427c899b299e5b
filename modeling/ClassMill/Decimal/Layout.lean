import ClassMill.Decimal.Shortest

/-!
# Layouts of float text

A float is written with its shortest digits in one of two layouts. The plain layout never uses
an exponent. The compact layout is plain for zero and for magnitudes from `1e-4` to below
`1e16`, and has one digit before the point and an exponent otherwise. Plain digits always have
a point with at least one digit after it.
-/

namespace ClassMill.Decimal

/-- The decimal digits of a natural number. -/
def digitsOf (n : Nat) : List Char := Nat.toDigits 10 n

/-- Digits with a point after the first `places` of them, filled up with zeros. -/
def positional (digits : List Char) (places : Int) : List Char :=
  match places with
  | .negSucc zeros => '0' :: '.' :: (List.replicate (zeros + 1) '0' ++ digits)
  | .ofNat 0 => '0' :: '.' :: digits
  | .ofNat (n + 1) =>
    if digits.length ≤ n + 1 then
      digits ++ List.replicate (n + 1 - digits.length) '0' ++ ['.', '0']
    else digits.take (n + 1) ++ '.' :: digits.drop (n + 1)

/-- An integer in decimal, without a sign if it is not negative. -/
def integerText : Int → List Char
  | .ofNat n => digitsOf n
  | .negSucc n => '-' :: digitsOf (n + 1)

/-- Digits with a point after the first and an exponent that restores `places`. -/
def scientific (digits : List Char) (places : Int) : List Char :=
  let mantissa :=
    match digits with
    | first :: second :: rest => first :: '.' :: second :: rest
    | _ => digits
  mantissa ++ 'e' :: integerText (places - 1)

/-- The layouts of float text. -/
inductive Layout
  | plain
  | compact
  deriving DecidableEq

/-- The text of a magnitude with the given digits and number of places before the point. -/
def Layout.place (layout : Layout) (digits : List Char) (places : Int) : List Char :=
  match layout with
  | .plain => positional digits places
  | .compact =>
    if -4 < places ∧ places ≤ 16 then positional digits places else scientific digits places

/-- The text of a magnitude. -/
def Layout.magnitude (layout : Layout) (mantissa : Nat) (exponent : Int) : List Char :=
  if mantissa = 0 then ['0', '.', '0']
  else
    let shortest := shortest mantissa exponent
    let digits := digitsOf shortest.digits
    layout.place digits (digits.length + shortest.exponent)

/-- The text of the value of a float; a value that is not a number has no sign. -/
def Layout.spell (layout : Layout) : Binary → List Char
  | .notANumber => ['N', 'a', 'N']
  | .infinite negative => (if negative then ['-'] else []) ++ ['i', 'n', 'f']
  | .finite negative mantissa exponent =>
    (if negative then ['-'] else []) ++ layout.magnitude mantissa exponent

/-- The text of a float without an exponent. -/
def plainText (x : Float) : List Char := Layout.plain.spell (.ofFloat x)

/-- The text of a float as source code and messages show it. -/
def compactText (x : Float) : String := String.ofList (Layout.compact.spell (.ofFloat x))

end ClassMill.Decimal
