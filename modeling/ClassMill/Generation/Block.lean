import ClassMill.Generation.Choice

/-!
# Drawing conditions and sections

A section is drawn with a budget of levels. Without levels it is a leaf; otherwise it is a
block, and every body of the block has one level less. So all ways from a section to a leaf
have the same length. The levels are a natural number, which makes the recursion structural.
-/

namespace ClassMill

open ClassMill.Random

/-- Draws an atom of a shape, its parts from left to right. -/
def Atom.draw (ctx : Context) : AtomKind → Draw Atom
  | .literal => return .literal (← ctx.chooseTruth)
  | .booleans =>
    return .booleans (← ctx.chooseTruth) (← ctx.chooseEquality) (← ctx.chooseTruth)
  | .integers =>
    return .integers (← ctx.chooseInteger) (← ctx.chooseRelation) (← ctx.chooseInteger)

/-- Draws a clause: first whether it is negated, then its atom. -/
def Clause.draw (ctx : Context) : Draw Clause := do
  let negated ← ctx.chooseNegation
  let kind ← ctx.chooseAtomKind
  return ⟨negated, ← Atom.draw ctx kind⟩

namespace Condition

/-- Draws a clause and how it is joined to those before it. -/
def drawJoined (ctx : Context) : Draw (Combiner × Clause) :=
  return (← ctx.chooseCombiner, ← Clause.draw ctx)

/-- The bytes that one joined clause takes. -/
def joinedSize : Nat := 40

/-- Draws a condition; it has a clause even where none is asked for. -/
def draw (ctx : Context) : Draw Condition := do
  let count ← ctx.chooseClauseCount
  let first ← Clause.draw ctx
  return ⟨first, ← Draw.listOf joinedSize (drawJoined ctx) (count.toNat - 1)⟩

end Condition

namespace Chain

/-- The chain of the given conditional branches and perhaps a last unconditional one. -/
def ofBranches (branches : List (Condition × Section)) (last : Option Section) : Chain :=
  branches.foldr (fun branch rest => .conditional branch.1 branch.2 rest)
    (last.elim .empty .otherwise)

/-- The bytes that one conditional branch takes. -/
def branchSize : Nat := 64

/-- The number of conditional branches among all branches of a chain. -/
def conditionalBranches (count : Nat) : Nat := max 1 (count - 1)

/-- Draws a conditional branch. -/
def drawBranch (ctx : Context) (body : Draw Section) : Draw (Condition × Section) :=
  return (← Condition.draw ctx, ← body)

/-- Draws the last branch of a chain, which is there if the chain has several branches. -/
def drawLast (body : Draw Section) (count : Nat) : Draw (Option Section) :=
  if 1 < count then some <$> body else pure none

/-- Draws an if chain whose bodies are drawn by `body`. -/
def draw (ctx : Context) (body : Draw Section) : Draw Chain := do
  let count ← ctx.chooseBranchCount
  let branches ← Draw.listOf branchSize (drawBranch ctx body) (conditionalBranches count.toNat)
  return ofBranches branches (← drawLast body count.toNat)

end Chain

namespace Section

/-- Draws a loop whose body is drawn by `body`. -/
def drawLoopOf (ctx : Context) (body : Draw Section) : Draw Section := do
  let counter ← ctx.chooseName .loopVariable
  let start ← ctx.chooseLoopStart
  let span ← ctx.chooseLoopSpan
  let stop ← Draw.ofExcept (checkedAdd start span)
  return .loop counter start stop (← body)

/-- Draws an if chain whose bodies are drawn by `body`. -/
def drawBranchOf (ctx : Context) (body : Draw Section) : Draw Section :=
  return .branch (← Chain.draw ctx body)

/-- Draws a leaf statement. -/
def drawLeaf (ctx : Context) : Draw Section := return .leaf (← ctx.chooseLeaf)

/-- Draws a block of a kind whose bodies are drawn by `body`. -/
def drawBlock (ctx : Context) (body : Draw Section) : BlockKind → Draw Section
  | .branch => drawBranchOf ctx body
  | .loop => drawLoopOf ctx body

/-- Draws a section with the given number of levels. -/
def draw (ctx : Context) : (levels : Nat) → Draw Section
  | 0 => drawLeaf ctx
  | levels + 1 => do drawBlock ctx (draw ctx levels) (← ctx.chooseBlockKind)

/-- Draws a section with a budget of levels; a negative budget is as good as none. -/
def drawAt (ctx : Context) (budget : Int32) : Draw Section := draw ctx budget.toInt.toNat

/-- Draws a body of a block that has the given budget itself, which must not be the least. -/
def drawBody (ctx : Context) (budget : Int32) : Draw Section :=
  if budget = Int32.minValue then Draw.fault .subOverflow else drawAt ctx (budget - 1)

/-- Draws an if chain with a budget of levels, whether or not the budget allows a block. -/
def drawBranch (ctx : Context) (budget : Int32) : Draw Section :=
  drawBranchOf ctx (drawBody ctx budget)

/-- Draws a loop with a budget of levels, whether or not the budget allows a block. -/
def drawLoop (ctx : Context) (budget : Int32) : Draw Section :=
  drawLoopOf ctx (drawBody ctx budget)

end Section

end ClassMill
