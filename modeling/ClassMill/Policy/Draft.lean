import ClassMill.Policy.Rule

/-!
# Drafts of policies

A draft gives values to some fields of a policy. It becomes a policy once every field has a
value and the values meet all rules; otherwise the first field without a value, or else the
first broken rule, is reported.
-/

namespace ClassMill.Policy

/-- The fields of a policy, in order. -/
inductive Field
  | name
  | maxDepth
  | sectionCount
  | branchCount
  | clauseCount
  | negation
  | loopStart
  | loopSpan
  | integerLiteral
  | realLiteral
  | truth
  | localCount
  | readonlyChance
  | typeLength
  | variableLength
  | loopVariableLength
  | methodLength
  deriving DecidableEq

namespace Field

/-- The fields in order. -/
def all : List Field := [.name, .maxDepth, .sectionCount, .branchCount, .clauseCount, .negation,
  .loopStart, .loopSpan, .integerLiteral, .realLiteral, .truth, .localCount, .readonlyChance,
  .typeLength, .variableLength, .loopVariableLength, .methodLength]

/-- The name of a field in files and messages. -/
def label : Field → String
  | .name => "name"
  | .maxDepth => "max_depth"
  | .sectionCount => "num_sections_dist"
  | .branchCount => "if_branch_dist"
  | .clauseCount => "num_clauses_dist"
  | .negation => "negation_prob"
  | .loopStart => "for_start_dist"
  | .loopSpan => "for_span_dist"
  | .integerLiteral => "int_literal_dist"
  | .realLiteral => "float_literal_range"
  | .truth => "bool_true_prob"
  | .localCount => "num_locals_dist"
  | .readonlyChance => "readonly_prob"
  | .typeLength => "type_name_len"
  | .variableLength => "variable_name_len"
  | .loopVariableLength => "short_variable_name_len"
  | .methodLength => "method_name_len"

end Field

/-- A value for one field. -/
inductive Assignment
  | name (value : String)
  | maxDepth (value : Int32)
  | sectionCount (value : Distribution)
  | branchCount (value : Distribution)
  | clauseCount (value : Distribution)
  | negation (value : Float)
  | loopStart (value : Distribution)
  | loopSpan (value : Distribution)
  | integerLiteral (value : Distribution)
  | realLiteral (value : Float × Float)
  | truth (value : Float)
  | localCount (value : Distribution)
  | readonlyChance (value : Float)
  | typeLength (value : UInt64)
  | variableLength (value : UInt64)
  | loopVariableLength (value : UInt64)
  | methodLength (value : UInt64)
  deriving DecidableEq

/-- A policy with one field replaced, whether or not the result is sensible. -/
def assign (p : Policy) : Assignment → Policy
  | .name value => { p with name := value }
  | .maxDepth value => { p with maxDepth := value }
  | .sectionCount value => { p with sectionCount := value }
  | .branchCount value => { p with branchCount := value }
  | .clauseCount value => { p with clauseCount := value }
  | .negation value => { p with negation := value }
  | .loopStart value => { p with loopStart := value }
  | .loopSpan value => { p with loopSpan := value }
  | .integerLiteral value => { p with integerLiteral := value }
  | .realLiteral value => { p with realLiteral := value }
  | .truth value => { p with truth := value }
  | .localCount value => { p with localCount := value }
  | .readonlyChance value => { p with readonlyChance := value }
  | .typeLength value => { p with typeLength := value }
  | .variableLength value => { p with variableLength := value }
  | .loopVariableLength value => { p with loopVariableLength := value }
  | .methodLength value => { p with methodLength := value }

/-- Why a draft is not a policy. -/
inductive Rejection
  | unset (field : Field)
  | broken (rule : Rule)
  deriving DecidableEq

/-- The wording of a rejection. -/
def Rejection.message : Rejection → String
  | .unset field => "`" ++ field.label ++ "` must be initialized"
  | .broken rule => rule.message

/-- Accepts a policy that meets all rules. -/
def accept (p : Policy) : Except Rejection Policy :=
  match p.brokenRule? with
  | none => .ok p
  | some rule => .error (.broken rule)

/-- Values for some fields of a policy. -/
structure Draft where
  name : Option String
  maxDepth : Option Int32
  sectionCount : Option Distribution
  branchCount : Option Distribution
  clauseCount : Option Distribution
  negation : Option Float
  loopStart : Option Distribution
  loopSpan : Option Distribution
  integerLiteral : Option Distribution
  realLiteral : Option (Float × Float)
  truth : Option Float
  localCount : Option Distribution
  readonlyChance : Option Float
  typeLength : Option UInt64
  variableLength : Option UInt64
  loopVariableLength : Option UInt64
  methodLength : Option UInt64
  deriving DecidableEq

namespace Draft

/-- A draft without values. -/
def empty : Draft := ⟨none, none, none, none, none, none, none, none, none, none, none, none,
  none, none, none, none, none⟩

/-- The draft that has all values of a policy. -/
def ofPolicy (p : Policy) : Draft where
  name := some p.name
  maxDepth := some p.maxDepth
  sectionCount := some p.sectionCount
  branchCount := some p.branchCount
  clauseCount := some p.clauseCount
  negation := some p.negation
  loopStart := some p.loopStart
  loopSpan := some p.loopSpan
  integerLiteral := some p.integerLiteral
  realLiteral := some p.realLiteral
  truth := some p.truth
  localCount := some p.localCount
  readonlyChance := some p.readonlyChance
  typeLength := some p.typeLength
  variableLength := some p.variableLength
  loopVariableLength := some p.loopVariableLength
  methodLength := some p.methodLength

/-- A draft with one more value; an earlier value of the field is replaced. -/
def assign (d : Draft) : Assignment → Draft
  | .name value => { d with name := value }
  | .maxDepth value => { d with maxDepth := value }
  | .sectionCount value => { d with sectionCount := value }
  | .branchCount value => { d with branchCount := value }
  | .clauseCount value => { d with clauseCount := value }
  | .negation value => { d with negation := value }
  | .loopStart value => { d with loopStart := value }
  | .loopSpan value => { d with loopSpan := value }
  | .integerLiteral value => { d with integerLiteral := value }
  | .realLiteral value => { d with realLiteral := value }
  | .truth value => { d with truth := value }
  | .localCount value => { d with localCount := value }
  | .readonlyChance value => { d with readonlyChance := value }
  | .typeLength value => { d with typeLength := value }
  | .variableLength value => { d with variableLength := value }
  | .loopVariableLength value => { d with loopVariableLength := value }
  | .methodLength value => { d with methodLength := value }

/-- The value of a field, or the report that it has none. -/
def require {α : Type} (field : Field) : Option α → Except Rejection α
  | some value => .ok value
  | none => .error (.unset field)

/-- The policy with the values of a draft that has them all. -/
def complete (d : Draft) : Except Rejection Policy := do
  return {
    name := ← require .name d.name
    maxDepth := ← require .maxDepth d.maxDepth
    sectionCount := ← require .sectionCount d.sectionCount
    branchCount := ← require .branchCount d.branchCount
    clauseCount := ← require .clauseCount d.clauseCount
    negation := ← require .negation d.negation
    loopStart := ← require .loopStart d.loopStart
    loopSpan := ← require .loopSpan d.loopSpan
    integerLiteral := ← require .integerLiteral d.integerLiteral
    realLiteral := ← require .realLiteral d.realLiteral
    truth := ← require .truth d.truth
    localCount := ← require .localCount d.localCount
    readonlyChance := ← require .readonlyChance d.readonlyChance
    typeLength := ← require .typeLength d.typeLength
    variableLength := ← require .variableLength d.variableLength
    loopVariableLength := ← require .loopVariableLength d.loopVariableLength
    methodLength := ← require .methodLength d.methodLength }

/-- The accepted policy with the values of a draft. -/
def build (d : Draft) : Except Rejection Policy := do (← d.complete).accept

end Draft

end ClassMill.Policy
