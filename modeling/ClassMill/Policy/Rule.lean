import ClassMill.Policy.Basic

/-!
# Rules for policies

A policy is accepted exactly if it meets every rule below: counts and literals lie within
fixed bounds, names have letters, the range of reals is finite and nonempty, and chances are
probabilities. The rules are checked in order, and the first broken one is reported.
-/

namespace ClassMill.Policy

/-- The largest accepted nesting depth. -/
def maxDepthCeiling : Int32 := 8

/-- The largest accepted literal, loop start and loop span. -/
def maxLiteral : UInt64 := 1000000

/-- What is asked of a policy. -/
inductive Rule
  | depth
  | branchCount
  | clauseCount
  | loopStart
  | loopSpan
  | integerLiterals
  | methodCounts
  | nameLengths
  | realLiterals
  | probabilities
  deriving DecidableEq

namespace Rule

/-- The rules in the order of checking. -/
def all : List Rule := [.depth, .branchCount, .clauseCount, .loopStart, .loopSpan,
  .integerLiterals, .methodCounts, .nameLengths, .realLiterals, .probabilities]

/-- Whether a number lies in the closed unit interval. -/
def isProbability (x : Float) : Bool := 0.0 ≤ x && x ≤ 1.0

/-- Whether a policy meets a rule. -/
def holds (p : Policy) : Rule → Bool
  | .depth => p.maxDepth ≤ maxDepthCeiling
  | .branchCount => p.branchCount.within 1 3
  | .clauseCount => p.clauseCount.within 1 18446744073709551615
  | .loopStart => p.loopStart.within 1 maxLiteral
  | .loopSpan => p.loopSpan.within 1 maxLiteral
  | .integerLiterals => p.integerLiteral.within 1 maxLiteral
  | .methodCounts => p.localCount.within 1 4 && p.sectionCount.within 1 4
  | .nameLengths => NameKind.all.all fun kind => p.nameLength kind != 0
  | .realLiterals =>
    p.realLiteral.1.isFinite && p.realLiteral.2.isFinite && p.realLiteral.1 < p.realLiteral.2
  | .probabilities =>
    isProbability p.negation && isProbability p.truth && isProbability p.readonlyChance

/-- The largest accepted literal as messages show it. -/
def literalBound : String := toString maxLiteral.toNat

/-- What a broken rule says. -/
def message : Rule → String
  | .depth => "Max depth must not exceed " ++ toString maxDepthCeiling.toInt ++ "."
  | .branchCount => "If branch count must lie within 1 and 3."
  | .clauseCount => "If conditions need at least one clause."
  | .loopStart => "For loop start must lie within 1 and " ++ literalBound ++ "."
  | .loopSpan => "For loop span must lie within 1 and " ++ literalBound ++ "."
  | .integerLiterals => "Integer literals must lie within 1 and " ++ literalBound ++ "."
  | .methodCounts => "Methods declare 1 to 4 locals and 1 to 4 sections."
  | .nameLengths => "Identifier lengths must be greater than 0."
  | .realLiterals => "Float literal range must be finite and non-empty."
  | .probabilities => "Probabilities must lie within 0 and 1."

end Rule

/-- The first rule that a policy breaks. -/
def brokenRule? (p : Policy) : Option Rule := Rule.all.find? fun rule => !rule.holds p

end ClassMill.Policy
