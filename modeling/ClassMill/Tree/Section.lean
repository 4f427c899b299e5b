import ClassMill.Tree.Condition

/-!
# Sections of a method body

A section is a leaf statement, an if chain or a loop; every branch and loop body is one
section. A chain lists its conditional branches and may end in an unconditional one. Depth
counts the blocks on the longest way from a section to a leaf.
-/

namespace ClassMill

/-- The leaf statements. -/
inductive Leaf
  | print
  | throw
  deriving DecidableEq

/-- The leaf statements in order. -/
def Leaf.all : List Leaf := [.print, .throw]

/-- The kinds of blocks. -/
inductive BlockKind
  | branch
  | loop
  deriving DecidableEq

/-- The kinds of blocks in order. -/
def BlockKind.all : List BlockKind := [.branch, .loop]

/-- The kinds of sections. -/
inductive SectionKind
  | print
  | throw
  | branch
  | loop
  deriving DecidableEq

/-- The kinds of sections in order. -/
def SectionKind.all : List SectionKind := [.print, .throw, .branch, .loop]

mutual

/-- A statement of a method body. -/
inductive Section
  | leaf (statement : Leaf)
  | branch (chain : Chain)
  /-- A loop of `counter` over the range from `start` to `stop`. -/
  | loop (counter : String) (start stop : UInt64) (body : Section)

/-- The branches of an if chain, in order. -/
inductive Chain
  /-- No further branch. -/
  | empty
  /-- The unconditional last branch. -/
  | otherwise (body : Section)
  /-- A conditional branch and those after it. -/
  | conditional (condition : Condition) (body : Section) (rest : Chain)

end

namespace Section

/-- The kind of a section. -/
def kind : Section → SectionKind
  | .leaf .print => .print
  | .leaf .throw => .throw
  | .branch _ => .branch
  | .loop _ _ _ _ => .loop

/-- Whether a section is a leaf statement. -/
def isLeaf : Section → Bool
  | .leaf _ => true
  | _ => false

end Section

mutual

/-- The number of blocks on the longest way to a leaf. -/
def Section.depth : Section → Nat
  | .leaf _ => 0
  | .branch chain => chain.depth + 1
  | .loop _ _ _ body => body.depth + 1

/-- The greatest depth of a body, zero without bodies. -/
def Chain.depth : Chain → Nat
  | .empty => 0
  | .otherwise body => body.depth
  | .conditional _ body rest => max body.depth rest.depth

end

namespace Chain

/-- The bodies of the branches, in order. -/
def bodies : Chain → List Section
  | .empty => []
  | .otherwise body => [body]
  | .conditional _ body rest => body :: rest.bodies

/-- The number of conditional branches. -/
def conditionalCount : Chain → Nat
  | .conditional _ _ rest => rest.conditionalCount + 1
  | _ => 0

/-- Whether the chain ends in an unconditional branch. -/
def hasOtherwise : Chain → Bool
  | .empty => false
  | .otherwise _ => true
  | .conditional _ _ rest => rest.hasOtherwise

/-- The number of branches. -/
def branchCount (chain : Chain) : Nat := chain.conditionalCount + chain.hasOtherwise.toNat

/-- The number of conditional branches after the first. -/
def elseIfCount (chain : Chain) : Nat := chain.conditionalCount - 1

end Chain

end ClassMill
