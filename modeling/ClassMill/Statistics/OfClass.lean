import ClassMill.Statistics.Counter
import ClassMill.Tree.ClassDecl

/-!
# The shape of a class

The statistics of a class count its properties, methods, locals, clauses and sections and
record its greatest nesting depth. A survey gathers them in one pass over the tree, with the
number of open blocks as it goes.
-/

namespace ClassMill

/-- The shape of one class. -/
structure ClassStatistics where
  properties : Nat
  methods : Nat
  locals : Nat
  clauses : Nat
  sections : Counter SectionKind
  propertyTypes : Counter PropertyType
  maxDepth : Nat
  deriving DecidableEq

namespace ClassStatistics

/-- The shape of nothing. -/
def zero : ClassStatistics := ⟨0, 0, 0, 0, .empty, .empty, 0⟩

/-- The number of all sections, a fault where it leaves 64 bits. -/
def totalSections (s : ClassStatistics) : Except Fault Nat := checkedSum 0 s.sections.total

end ClassStatistics

/-- The shape of what was met so far, and the number of open blocks. -/
structure Survey where
  statistics : ClassStatistics
  openBlocks : Nat
  deriving DecidableEq

namespace Survey

/-- Nothing met yet. -/
def start : Survey := ⟨.zero, 0⟩

/-- Changes the statistics. -/
def record (change : ClassStatistics → ClassStatistics) (v : Survey) : Survey :=
  { v with statistics := change v.statistics }

/-- Enters a block. -/
def enter (v : Survey) : Survey :=
  { statistics := { v.statistics with maxDepth := max v.statistics.maxDepth (v.openBlocks + 1) }
    openBlocks := v.openBlocks + 1 }

/-- Leaves a block. -/
def leave (v : Survey) : Survey := { v with openBlocks := v.openBlocks - 1 }

/-- Counts the clauses of a condition. -/
def condition (c : Condition) : Survey → Survey :=
  record fun s => { s with clauses := s.clauses + c.size }

/-- Counts a section of a kind. -/
def kind (k : SectionKind) : Survey → Survey :=
  record fun s => { s with sections := s.sections.bump k }

end Survey

mutual

/-- Surveys a section. -/
def Section.survey : Section → Survey → Survey
  | .leaf statement, v => v.kind (Section.leaf statement).kind
  | .branch chain, v => (chain.survey (v.kind .branch).enter).leave
  | .loop _ _ _ body, v => (body.survey (v.kind .loop).enter).leave

/-- Surveys the branches of an if chain. -/
def Chain.survey : Chain → Survey → Survey
  | .empty, v => v
  | .otherwise body, v => body.survey v
  | .conditional condition body rest, v => rest.survey (body.survey (v.condition condition))

end

namespace Survey

/-- Surveys a property. -/
def property (v : Survey) (p : Property) : Survey :=
  v.record fun s =>
    { s with properties := s.properties + 1, propertyTypes := s.propertyTypes.bump p.type }

/-- Surveys a local variable. -/
def declaration (v : Survey) (_ : Local) : Survey :=
  v.record fun s => { s with locals := s.locals + 1 }

/-- Surveys a method. -/
def method (v : Survey) (m : Method) : Survey :=
  let v := v.record fun s => { s with methods := s.methods + 1 }
  m.sections.foldl (fun v item => item.survey v) (m.locals.foldl declaration v)

end Survey

/-- The shape of a class. -/
def ClassDecl.statistics (c : ClassDecl) : ClassStatistics :=
  (c.methods.foldl Survey.method (c.properties.foldl Survey.property .start)).statistics

end ClassMill
