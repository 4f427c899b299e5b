import ClassMill.Random.Uniform

/-!
# Random identifiers

An identifier is a run of ASCII letters whose first letter has the case of its kind. Reserved
words of the target grammar are drawn again, whatever their case. A method name carries a
fixed ending. Earlier names are not remembered, so two identifiers may coincide.
-/

namespace ClassMill

open ClassMill.Random

/-- What an identifier names. -/
inductive NameKind
  | type
  | localVariable
  /-- The variable of a loop. -/
  | loopVariable
  | method
  deriving DecidableEq

namespace NameKind

/-- The kinds in order. -/
def all : List NameKind := [.type, .localVariable, .loopVariable, .method]

/-- The number of letters where a policy does not say otherwise. -/
def defaultLength : NameKind → UInt64
  | .loopVariable => 4
  | _ => 8

/-- Whether the first letter is a capital. -/
def capitalised : NameKind → Bool
  | .type | .method => true
  | .localVariable | .loopVariable => false

end NameKind

namespace Name

/-- The small letters. -/
def smallLetters : List Char := "abcdefghijklmnopqrstuvwxyz".toList

/-- The capital letters. -/
def capitalLetters : List Char := "ABCDEFGHIJKLMNOPQRSTUVWXYZ".toList

/-- The ending of every method name. -/
def methodSuffix : String := "_method"

/-- The words that the target grammar reserves, in small letters. -/
def reservedWords : List String := [
  "abstract", "and", "as", "block", "break", "case", "catch", "class", "construct", "continue",
  "default", "delegate", "do", "else", "enhancement", "enum", "eval", "exists", "extends",
  "false", "final", "finally", "find", "for", "foreach", "function", "get", "if", "implements",
  "in", "index", "infinity", "interface", "internal", "iterator", "length", "nan", "new",
  "not", "null", "or", "outer", "override", "package", "private", "property", "protected",
  "public", "readonly", "represents", "return", "set", "static", "statictypeof", "structure",
  "super", "switch", "this", "throw", "transient", "true", "try", "typeas", "typeis", "typeof",
  "unless", "uses", "using", "var", "void", "where", "while"]

/-- Replaces ASCII capitals by small letters. -/
def lowered (name : String) : String := name.map Char.toLower

/-- Whether a name is a reserved word up to the case of ASCII letters. -/
def isReserved (name : String) : Bool := reservedWords.contains (lowered name)

/-- The letters that may stand first in a name of the kind. -/
def leadingLetters (kind : NameKind) : List Char :=
  if kind.capitalised then capitalLetters else smallLetters

/-- Draws one letter of an alphabet. -/
def letter (alphabet : List Char) : Draw Char :=
  return (← Draw.choose alphabet).getD 'a'

/-- Draws a run of `length + 1` letters. -/
def stem (kind : NameKind) (length : Nat) : Draw String := do
  let first ← letter (leadingLetters kind)
  let rest ← Draw.times (letter (smallLetters ++ capitalLetters)) length
  return String.ofList (first :: rest)

/-- Reserves storage for a name of `length` letters with the method ending. -/
def reserveStem (length : UInt64) : Except Fault Unit := do
  let size ← checkedAdd length (UInt64.ofNat methodSuffix.length)
  reserve size.toNat 1

/-- The ending that names of a kind carry. -/
def ending : NameKind → String
  | .method => methodSuffix
  | _ => ""

/-- Draws an identifier with `length` letters, at least one, that is not reserved. -/
def identifier (kind : NameKind) (length : UInt64) : Draw String := do
  let length := max length 1
  Draw.ofExcept (reserveStem length)
  let name ← Draw.redraw (stem kind (length.toNat - 1)) fun name =>
    if isReserved name then none else some name
  return name ++ ending kind

end Name

end ClassMill
