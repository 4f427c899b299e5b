import ClassMill.Tree.Condition

/-!
# Properties

A property has a position in its class, which determines its two names, a type and a default
value. Numeric types take the position as their default.
-/

namespace ClassMill

/-- The types of properties, in order. -/
inductive PropertyType
  | int
  | string
  | boolean
  | double
  | float
  | long
  | short
  deriving DecidableEq

namespace PropertyType

/-- The types in order. -/
def all : List PropertyType := [.int, .string, .boolean, .double, .float, .long, .short]

/-- Whether values of the type are numbers. -/
def isNumeric : PropertyType → Bool
  | .string | .boolean => false
  | _ => true

end PropertyType

/-- The default value of a property. -/
inductive DefaultValue
  | ordinal (value : UInt64)
  /-- The content of a text literal, without quotes. -/
  | text (content : String)
  | boolean (value : Bool)
  deriving DecidableEq

/-- A property of a class. -/
structure Property where
  /-- The position in the class, counted from one. -/
  ordinal : UInt64
  type : PropertyType
  readonly : Bool
  default : DefaultValue
  deriving DecidableEq

namespace Property

/-- The name of the field that holds the value. -/
def fieldName (p : Property) : String := "_property" ++ wordText p.ordinal

/-- The public name. -/
def accessorName (p : Property) : String := "Property" ++ wordText p.ordinal

end Property

end ClassMill
