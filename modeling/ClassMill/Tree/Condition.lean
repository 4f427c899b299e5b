/-!
# Conditions

A condition is a nonempty sequence of clauses joined by `and` or `or`, read from left to
right. A clause is a boolean literal or a comparison of two literals, possibly negated.
-/

namespace ClassMill

/-- A boolean as it is written in source text. -/
def boolText (b : Bool) : String := if b then "true" else "false"

/-- A word in decimal. -/
def wordText (n : UInt64) : String := toString n.toNat

/-- How a clause is joined to the clauses before it. -/
inductive Combiner
  | conjunction
  | disjunction
  deriving DecidableEq

namespace Combiner

/-- The combiners in order. -/
def all : List Combiner := [.conjunction, .disjunction]

/-- The word for a combiner. -/
def text : Combiner → String
  | .conjunction => "and"
  | .disjunction => "or"

end Combiner

/-- Comparisons of booleans. -/
inductive Equality
  | equal
  | unequal
  deriving DecidableEq

namespace Equality

/-- The comparisons in order. -/
def all : List Equality := [.equal, .unequal]

/-- The operator for a comparison. -/
def text : Equality → String
  | .equal => "=="
  | .unequal => "!="

end Equality

/-- Comparisons of integers. -/
inductive Relation
  | equal
  | unequal
  | less
  | greater
  | atMost
  | atLeast
  deriving DecidableEq

namespace Relation

/-- The comparisons in order. -/
def all : List Relation := [.equal, .unequal, .less, .greater, .atMost, .atLeast]

/-- The operator for a comparison. -/
def text : Relation → String
  | .equal => "=="
  | .unequal => "!="
  | .less => "<"
  | .greater => ">"
  | .atMost => "<="
  | .atLeast => ">="

end Relation

/-- The statement of a clause. -/
inductive Atom
  | literal (value : Bool)
  | booleans (left : Bool) (op : Equality) (right : Bool)
  | integers (left : UInt64) (op : Relation) (right : UInt64)
  deriving DecidableEq

namespace Atom

/-- A boolean literal as it is, a comparison in parentheses. -/
def text : Atom → String
  | .literal value => boolText value
  | .booleans left op right =>
    "(" ++ boolText left ++ " " ++ op.text ++ " " ++ boolText right ++ ")"
  | .integers left op right =>
    "(" ++ wordText left ++ " " ++ op.text ++ " " ++ wordText right ++ ")"

end Atom

/-- The shapes of atoms. -/
inductive AtomKind
  | literal
  | booleans
  | integers
  deriving DecidableEq

/-- The shapes in order. -/
def AtomKind.all : List AtomKind := [.literal, .booleans, .integers]

/-- An atom, negated or not. -/
structure Clause where
  negated : Bool
  atom : Atom
  deriving DecidableEq

/-- The text of a clause. -/
def Clause.text (c : Clause) : String :=
  if c.negated then "not " ++ c.atom.text else c.atom.text

/-- A first clause and the clauses joined to it. -/
structure Condition where
  first : Clause
  rest : List (Combiner × Clause)
  deriving DecidableEq

namespace Condition

/-- The number of clauses. -/
def size (c : Condition) : Nat := c.rest.length + 1

/-- A joined clause, with the word that joins it. -/
def joinedText (joined : Combiner × Clause) : String :=
  " " ++ joined.1.text ++ " " ++ joined.2.text

/-- The text of a condition: its clauses with the joining words between them. -/
def text (c : Condition) : String :=
  c.rest.foldl (fun s joined => s ++ joinedText joined) c.first.text

end Condition

end ClassMill
