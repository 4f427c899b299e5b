import ClassMill.Statistics.OfClass

/-!
# Totals over a batch of classes

The statistics of a batch hold sums, extremes and counters over the classes added to it. Each
sum must fit into 64 bits; the extremes are absent as long as there is no class.
-/

namespace ClassMill

/-- Totals over the classes of a batch. -/
structure BatchStatistics where
  classes : Nat
  properties : Nat
  methods : Nat
  sections : Nat
  minMethods : Option Nat
  maxMethods : Option Nat
  minProperties : Option Nat
  maxProperties : Option Nat
  maxDepth : Nat
  sectionKinds : Counter SectionKind
  propertyTypes : Counter PropertyType
  deriving DecidableEq

namespace BatchStatistics

/-- The totals over no class. -/
def zero : BatchStatistics := ⟨0, 0, 0, 0, none, none, none, none, 0, .empty, .empty⟩

/-- An extreme that takes one more value into account. -/
def extreme (choose : Nat → Nat → Nat) (known : Option Nat) (value : Nat) : Option Nat :=
  match known with
  | none => some value
  | some best => some (choose best value)

/-- Adds the statistics of one class. -/
def add (b : BatchStatistics) (s : ClassStatistics) : Except Fault BatchStatistics := do
  let classes ← checkedSum b.classes 1
  let properties ← checkedSum b.properties s.properties
  let methods ← checkedSum b.methods s.methods
  let sections ← checkedSum b.sections (← s.totalSections)
  let sectionKinds ← b.sectionKinds.add s.sections
  let propertyTypes ← b.propertyTypes.add s.propertyTypes
  return {
    classes, properties, methods, sections, sectionKinds, propertyTypes
    minMethods := extreme min b.minMethods s.methods
    maxMethods := extreme max b.maxMethods s.methods
    minProperties := extreme min b.minProperties s.properties
    maxProperties := extreme max b.maxProperties s.properties
    maxDepth := max b.maxDepth s.maxDepth }

/-- Adds the statistics of several classes in order. -/
def addAll (b : BatchStatistics) : List ClassStatistics → Except Fault BatchStatistics
  | [] => .ok b
  | s :: rest => do (← b.add s).addAll rest

end BatchStatistics

end ClassMill
