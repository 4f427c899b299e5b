import ClassMill.Decimal.Layout
import ClassMill.Dialect.Basic
import ClassMill.Tree.ClassDecl

/-!
# Lines of a class file

Every statement, block head and block end is one line of text, and a dialect decides how each
of them reads. The two dialects differ in the declarations of packages and properties only.
-/

namespace ClassMill

/-- An initial value as it is written. -/
def Initializer.text : Initializer → String
  | .quotedBoolean value => "\"" ++ boolText value ++ "\""
  | .integer value => wordText value
  | .real value => Decimal.compactText value
  | .quotedName name => "\"" ++ name ++ "\""

namespace Dialect

/-- The declaration of the package. -/
def packageLine : Dialect → String → String
  | .core, package => "package " ++ package
  | .extended, package => "package " ++ package ++ ";"

/-- The head of a class with the given name. -/
def classHead (_ : Dialect) (name : String) : String := "public class " ++ name ++ " \x7b"

/-- The declaration of a property. -/
def propertyLine (dialect : Dialect) (p : Property) : String :=
  "var " ++ p.fieldName ++ " : " ++ dialect.typeName p.type ++ " as " ++
    (if p.readonly then "readonly " else "") ++ p.accessorName ++ " = " ++
    dialect.defaultLiteral p.type p.default

/-- The head of a method with the given name. -/
def methodHead (_ : Dialect) (name : String) : String := "function " ++ name ++ "() : int \x7b"

/-- The declaration of a local variable. -/
def localLine (_ : Dialect) (l : Local) : String := "var " ++ l.name ++ " = " ++ l.initial.text

/-- The text of a leaf statement. -/
def leafLine (_ : Dialect) : Leaf → String
  | .print => "print(\"Hello World\")"
  | .throw => "throw \"Error\""

/-- The head of the first branch of an if chain. -/
def ifHead (_ : Dialect) (c : Condition) : String := "if( " ++ c.text ++ " ) \x7b"

/-- The head of a later conditional branch of an if chain. -/
def elseIfHead (_ : Dialect) (c : Condition) : String := "\x7d else if( " ++ c.text ++ " ) \x7b"

/-- The head of the unconditional branch of an if chain. -/
def elseHead (_ : Dialect) : String := "\x7d else \x7b"

/-- The head of a loop. -/
def loopHead (_ : Dialect) (counter : String) (start stop : UInt64) : String :=
  "for( " ++ counter ++ " in " ++ wordText start ++ ".." ++ wordText stop ++ " ) \x7b"

/-- The end of a block. -/
def blockEnd (_ : Dialect) : String := "\x7d"

/-- The statement that ends a method. -/
def returnLine (_ : Dialect) (value : UInt64) : String := "return " ++ wordText value

end Dialect

end ClassMill
