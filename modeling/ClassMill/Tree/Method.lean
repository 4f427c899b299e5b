import ClassMill.Tree.Section

/-!
# Methods

A method declares local variables, runs its sections and returns an integer.
-/

namespace ClassMill

/-- The initial value of a local variable. -/
inductive Initializer
  /-- A boolean in quotes. -/
  | quotedBoolean (value : Bool)
  | integer (value : UInt64)
  | real (value : Float)
  /-- An identifier in quotes. -/
  | quotedName (name : String)
  deriving DecidableEq

/-- The shapes of initial values. -/
inductive InitializerKind
  | quotedBoolean
  | integer
  | real
  | quotedName
  deriving DecidableEq

/-- The shapes in order. -/
def InitializerKind.all : List InitializerKind := [.quotedBoolean, .integer, .real, .quotedName]

/-- A local variable with its initial value. -/
structure Local where
  name : String
  initial : Initializer
  deriving DecidableEq

/-- A method without parameters. -/
structure Method where
  name : String
  locals : List Local
  sections : List Section
  /-- The integer that the method returns. -/
  result : UInt64

end ClassMill
