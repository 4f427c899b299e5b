import ClassMill.Tree.Method
import ClassMill.Tree.Property

/-!
# Classes

A class is the root of the tree that one source file holds. Once written, only its name and
its text are kept.
-/

namespace ClassMill

/-- A class with its package. -/
structure ClassDecl where
  package : String
  name : String
  properties : List Property
  methods : List Method

/-- A class as a named source text. -/
structure GeneratedClass where
  name : String
  source : String
  deriving DecidableEq

/-- The name of the file that holds the class. -/
def GeneratedClass.fileName (c : GeneratedClass) (extension : String) : String :=
  c.name ++ "." ++ extension

end ClassMill
