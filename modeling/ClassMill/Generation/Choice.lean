import ClassMill.Dialect.Basic
import ClassMill.Policy.Basic
import ClassMill.Tree.ClassDecl

/-!
# Elementary choices

A context holds what steers generation: the policy, the dialect and the seed on record. Every
elementary choice is one draw under a context. Alternatives without a weight are equally
likely, and the other choices follow the distribution or chance that the policy gives them.
-/

namespace ClassMill

open ClassMill.Random

/-- What steers the generation of classes. -/
structure Context where
  policy : Policy
  dialect : Dialect
  /-- The seed on record, from which a run can be repeated. -/
  seed : UInt64
  deriving DecidableEq

namespace Context

/-- One of the leaf statements. -/
def chooseLeaf (_ : Context) : Draw Leaf := Draw.pick .print [.throw]

/-- One of the kinds of blocks. -/
def chooseBlockKind (_ : Context) : Draw BlockKind := Draw.pick .branch [.loop]

/-- One of the shapes of atoms. -/
def chooseAtomKind (_ : Context) : Draw AtomKind := Draw.pick .literal [.booleans, .integers]

/-- One of the combiners. -/
def chooseCombiner (_ : Context) : Draw Combiner := Draw.pick .conjunction [.disjunction]

/-- One of the comparisons of booleans. -/
def chooseEquality (_ : Context) : Draw Equality := Draw.pick .equal [.unequal]

/-- One of the comparisons of integers. -/
def chooseRelation (_ : Context) : Draw Relation :=
  Draw.pick .equal [.unequal, .less, .greater, .atMost, .atLeast]

/-- One of the shapes of initial values. -/
def chooseInitializerKind (_ : Context) : Draw InitializerKind :=
  Draw.pick .quotedBoolean [.integer, .real, .quotedName]

/-- One of the types of the dialect. -/
def choosePropertyType (ctx : Context) : Draw PropertyType :=
  return (← Draw.choose ctx.dialect.propertyTypes).getD .int

/-- The number of branches of an if chain. -/
def chooseBranchCount (ctx : Context) : Draw UInt64 := ctx.policy.branchCount.sample

/-- The number of clauses of a condition. -/
def chooseClauseCount (ctx : Context) : Draw UInt64 := ctx.policy.clauseCount.sample

/-- The number of local variables of a method. -/
def chooseLocalCount (ctx : Context) : Draw UInt64 := ctx.policy.localCount.sample

/-- The number of top-level sections of a method. -/
def chooseSectionCount (ctx : Context) : Draw UInt64 := ctx.policy.sectionCount.sample

/-- The first value of a loop. -/
def chooseLoopStart (ctx : Context) : Draw UInt64 := ctx.policy.loopStart.sample

/-- The distance from the first value of a loop to its last, at least one. -/
def chooseLoopSpan (ctx : Context) : Draw UInt64 := return max (← ctx.policy.loopSpan.sample) 1

/-- An integer literal. -/
def chooseInteger (ctx : Context) : Draw UInt64 := ctx.policy.integerLiteral.sample

/-- A real literal. -/
def chooseReal (ctx : Context) : Draw Float :=
  Draw.real ctx.policy.realLiteral.1 ctx.policy.realLiteral.2

/-- A boolean literal. -/
def chooseTruth (ctx : Context) : Draw Bool := Draw.chance ctx.policy.truth

/-- Whether a clause is negated. -/
def chooseNegation (ctx : Context) : Draw Bool := Draw.chance ctx.policy.negation

/-- Whether a property is readonly. -/
def chooseReadonly (ctx : Context) : Draw Bool := Draw.chance ctx.policy.readonlyChance

/-- A name of a kind, with the number of letters that the policy gives it. -/
def chooseName (ctx : Context) (kind : NameKind) : Draw String :=
  Name.identifier kind (ctx.policy.nameLength kind)

end Context

end ClassMill
