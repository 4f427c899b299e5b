import ClassMill.Distribution
import ClassMill.Name

/-!
# Policies

A policy holds every number that governs the generation of classes: the depth of nesting, the
distributions of counts and literals, the chances of the alternatives and the lengths of
names. A policy by itself need not be sensible; the rules for accepted ones are stated apart.
-/

namespace ClassMill

/-- The numbers that govern generation. -/
structure Policy where
  name : String
  /-- The nesting depth of top-level sections; without a positive depth they are leaves. -/
  maxDepth : Int32
  /-- The number of top-level sections of a method. -/
  sectionCount : Distribution
  /-- The number of branches of an if chain, the unconditional one included. -/
  branchCount : Distribution
  /-- The number of clauses of a condition. -/
  clauseCount : Distribution
  /-- The chance that a clause is negated. -/
  negation : Float
  /-- The first value of a loop. -/
  loopStart : Distribution
  /-- The distance from the first value of a loop to its last. -/
  loopSpan : Distribution
  /-- Integer literals in clauses, initial values and results. -/
  integerLiteral : Distribution
  /-- The half-open range of real initial values. -/
  realLiteral : Float × Float
  /-- The chance that a boolean literal is true. -/
  truth : Float
  /-- The number of local variables of a method. -/
  localCount : Distribution
  /-- The chance that a property is readonly. -/
  readonlyChance : Float
  typeLength : UInt64
  variableLength : UInt64
  loopVariableLength : UInt64
  methodLength : UInt64
  deriving DecidableEq

namespace Policy

/-- The number of letters in names of a kind. -/
def nameLength (p : Policy) : NameKind → UInt64
  | .type => p.typeLength
  | .localVariable => p.variableLength
  | .loopVariable => p.loopVariableLength
  | .method => p.methodLength

/-- Moderate nesting, short conditions. -/
def default : Policy where
  name := "default"
  maxDepth := 3
  sectionCount := .uniform 1 4
  branchCount := .uniform 1 3
  clauseCount := .uniform 1 3
  negation := 0.5
  loopStart := .uniform 1 9
  loopSpan := .uniform 1 9
  integerLiteral := .uniform 1 99
  realLiteral := (1.0, 100.0)
  truth := 0.5
  localCount := .uniform 1 4
  readonlyChance := 0.5
  typeLength := NameKind.type.defaultLength
  variableLength := NameKind.localVariable.defaultLength
  loopVariableLength := NameKind.loopVariable.defaultLength
  methodLength := NameKind.method.defaultLength

/-- Leaf statements only. -/
def flat : Policy := { default with name := "flat", maxDepth := 0 }

/-- Deep nesting with wide chains and long conditions. -/
def deep : Policy :=
  { default with
    name := "deep"
    maxDepth := 5
    branchCount := .uniform 2 3
    sectionCount := .uniform 2 4
    clauseCount := .uniform 2 3 }

/-- The policies that have a name. -/
def named : List Policy := [default, flat, deep]

/-- The names of policies. -/
def names : List String := named.map name

/-- The policy of a name. -/
def find? (name : String) : Option Policy := named.find? fun p => p.name = name

end Policy

end ClassMill
