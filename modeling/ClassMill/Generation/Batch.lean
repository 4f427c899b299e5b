import ClassMill.Complexity
import ClassMill.Emit
import ClassMill.Generation.Member
import ClassMill.Statistics.OfBatch
import ClassMill.Variance

/-!
# Generators and batches

A generator knows the base counts of a class, their variances and the package. Generating a
class draws the two counts, the number of methods first, then the tree; the tree is written in
the dialect of the context and measured. A batch generates classes one at a time, as they are
asked for, until its count is used up.
-/

namespace ClassMill

open ClassMill.Random

/-- A class as text, with its statistics. -/
structure Generated where
  file : GeneratedClass
  statistics : ClassStatistics
  deriving DecidableEq

/-- A tree as text, with its statistics. -/
def ClassDecl.written (c : ClassDecl) (dialect : Dialect) : Generated :=
  ⟨⟨c.name, c.source dialect⟩, c.statistics⟩

/-- What a generator knows about the classes it makes. -/
structure ClassGenerator where
  /-- The base number of methods. -/
  methods : UInt64
  /-- The base number of properties. -/
  properties : UInt64
  methodVariance : Float
  propertyVariance : Float
  package : String
  deriving DecidableEq

namespace ClassGenerator

/-- The generator of a preset, whose variances are capped. -/
def ofPreset (p : Preset) (ceiling : UInt32) (package : String) : ClassGenerator where
  methods := p.baseMethods
  properties := p.baseProperties
  methodVariance := Variance.clamp p.methodVariance ceiling
  propertyVariance := Variance.clamp p.propertyVariance ceiling
  package := package

/-- Draws the tree of a class. -/
def drawClass (g : ClassGenerator) (ctx : Context) : Draw ClassDecl := do
  let methods ← Variance.count g.methods g.methodVariance
  let properties ← Variance.count g.properties g.propertyVariance
  ClassDecl.draw ctx g.package properties methods

/-- Generates a class with its statistics. -/
def generate (g : ClassGenerator) (ctx : Context) : Draw Generated :=
  return (← g.drawClass ctx).written ctx.dialect

/-- Generates a class. -/
def makeClass (g : ClassGenerator) (ctx : Context) : Draw GeneratedClass :=
  return (← g.generate ctx).file

end ClassGenerator

/-- Classes still to be generated. -/
structure Batch where
  generator : ClassGenerator
  context : Context
  remaining : Nat
  deriving DecidableEq

/-- A batch of a number of classes. -/
def ClassGenerator.batch (g : ClassGenerator) (ctx : Context) (count : Nat) : Batch :=
  ⟨g, ctx, count⟩

namespace Batch

/-- Generates the next class, if any is left; otherwise nothing is drawn. -/
def next (b : Batch) : Draw (Option Generated × Batch) :=
  match b.remaining with
  | 0 => return (none, b)
  | remaining + 1 => do
    let output ← b.generator.generate b.context
    return (some output, { b with remaining })

/-- Asks for the next class `count` times; each answer comes with what is left then. -/
def calls (b : Batch) : (count : Nat) → Draw (List (Option Generated × Batch))
  | 0 => return []
  | count + 1 => do
    let answer ← b.next
    return answer :: (← answer.2.calls count)

end Batch

/-- The totals over generated classes. -/
def BatchStatistics.ofGenerated (outputs : List Generated) : Except Fault BatchStatistics :=
  zero.addAll (outputs.map Generated.statistics)

end ClassMill
