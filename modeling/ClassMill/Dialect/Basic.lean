import ClassMill.Refusal
import ClassMill.Text.Blank
import ClassMill.Tree.Property

/-!
# Dialects

A class is written in one of two dialects. The core dialect has few types and no casts; the
extended one has all types and casts the default of a numeric type other than `int`. A dialect
is read by its name or by a letter, up to surrounding blanks and the case of ASCII letters.
-/

namespace ClassMill

/-- The dialects. -/
inductive Dialect
  | core
  | extended
  deriving DecidableEq

namespace Dialect

/-- The dialects in order. -/
def all : List Dialect := [.core, .extended]

/-- The dialect where none is asked for. -/
def standard : Dialect := .core

/-- The name of a dialect. -/
def name : Dialect → String
  | .core => "core"
  | .extended => "extended"

/-- The ending of the names of source files. -/
def fileExtension (_ : Dialect) : String := "gs"

/-- A text without surrounding blanks, in small letters. -/
def normal (text : String) : String :=
  String.ofList ((Text.trim text.toList).map Char.toLower)

/-- Reads the name or letter of a dialect. -/
def parse (text : String) : Except Refusal Dialect :=
  match normal text with
  | "core" | "b" => .ok .core
  | "extended" | "a" => .ok .extended
  | _ => .error (.unknownDialect text)

/-- The types that properties may be declared with, in order. -/
def propertyTypes : Dialect → List PropertyType
  | .core => [.int, .string, .boolean]
  | .extended => [.int, .string, .boolean, .double, .float, .long, .short]

/-- The word for a type; the core dialect has one word for all numeric types. -/
def typeName : Dialect → PropertyType → String
  | .core, .boolean => "Boolean"
  | .core, .string => "String"
  | .core, _ => "int"
  | .extended, .int => "int"
  | .extended, .string => "String"
  | .extended, .boolean => "boolean"
  | .extended, .double => "double"
  | .extended, .float => "float"
  | .extended, .long => "long"
  | .extended, .short => "short"

/-- A default value without a cast. -/
def plainLiteral : DefaultValue → String
  | .ordinal value => wordText value
  | .text content => "\"" ++ content ++ "\""
  | .boolean value => boolText value

/-- Whether the default of a type is cast to it. -/
def casts (dialect : Dialect) (type : PropertyType) : Bool :=
  match dialect with
  | .core => false
  | .extended => type.isNumeric && type ≠ .int

/-- The default value as the dialect writes it. -/
def defaultLiteral (dialect : Dialect) (type : PropertyType) (value : DefaultValue) : String :=
  match value with
  | .ordinal n =>
    if dialect.casts type then wordText n ++ " as " ++ dialect.typeName type else wordText n
  | value => plainLiteral value

end Dialect

end ClassMill
