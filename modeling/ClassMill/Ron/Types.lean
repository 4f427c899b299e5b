import ClassMill.Complexity
import ClassMill.Dialect.Basic
import ClassMill.Ron.Codec
import ClassMill.Statistics.OfBatch

/-!
# Codecs of this library's types

Enumerations are written by their labels, distributions as named tuples, and policies, presets
and statistics as named records. A policy that is read from a file must be accepted by the
rules for policies.
-/

namespace ClassMill

open Ron

/-- The label of a kind of names. -/
def NameKind.label : NameKind → String
  | .type => "Type"
  | .localVariable => "Variable"
  | .loopVariable => "ShortVariable"
  | .method => "Method"

/-- The label of a kind of sections. -/
def SectionKind.label : SectionKind → String
  | .print => "Print"
  | .throw => "Throw"
  | .branch => "If"
  | .loop => "For"

/-- The label of a type. -/
def PropertyType.label : PropertyType → String
  | .int => "Int"
  | .string => "String"
  | .boolean => "Boolean"
  | .double => "Double"
  | .float => "Float"
  | .long => "Long"
  | .short => "Short"

/-- The label of a tier. -/
def Complexity.label : Complexity → String
  | .simple => "Simple"
  | .complex => "Complex"
  | .gordianKnot => "GordianKnot"

/-- The label of a dialect. -/
def Dialect.label : Dialect → String
  | .core => "Core"
  | .extended => "Extended"

instance : Codec NameKind := .ofLabels NameKind.all NameKind.label

instance : Codec SectionKind := .ofLabels SectionKind.all SectionKind.label

instance : Codec PropertyType := .ofLabels PropertyType.all PropertyType.label

instance : Codec Complexity := .ofLabels Complexity.all Complexity.label

instance : Codec Dialect := .ofLabels Dialect.all Dialect.label

instance : Codec Distribution where
  encode
    | .uniform low high =>
      .tuple (some (.plain "Uniform")) [Codec.encode low, Codec.encode high]
    | .const value => .tuple (some (.plain "Const")) [Codec.encode value]
  decode extensions
    | .tuple (some name) [a, b] =>
      if name.letters = "Uniform" then
        match Codec.decode extensions a, Codec.decode extensions b with
        | some low, some high => some (.uniform low high)
        | _, _ => none
      else none
    | .tuple (some name) [a] =>
      if name.letters = "Const" then (Codec.decode extensions a).map .const else none
    | _ => none

instance : Codec Preset where
  encode p := .record (some (.plain "GenerationPreset")) [
    encodeField "base_methods" p.baseMethods,
    encodeField "base_properties" p.baseProperties,
    encodeField "method_variance_pct" p.methodVariance,
    encodeField "property_variance_pct" p.propertyVariance]
  decode extensions v := do
    let fields ← fieldsOf? "GenerationPreset" v
    return {
      baseMethods := ← decodeField extensions fields "base_methods"
      baseProperties := ← decodeField extensions fields "base_properties"
      methodVariance := ← decodeField extensions fields "method_variance_pct"
      propertyVariance := ← decodeField extensions fields "property_variance_pct" }

instance : Codec ClassStatistics where
  encode s := .record (some (.plain "ClassStatistics")) [
    encodeField "num_properties" s.properties,
    encodeField "num_methods" s.methods,
    encodeField "num_locals" s.locals,
    encodeField "num_clauses" s.clauses,
    encodeField "section_counter" s.sections,
    encodeField "property_ty_counter" s.propertyTypes,
    encodeField "max_nesting_depth" s.maxDepth]
  decode extensions v := do
    let fields ← fieldsOf? "ClassStatistics" v
    return {
      properties := ← decodeField extensions fields "num_properties"
      methods := ← decodeField extensions fields "num_methods"
      locals := ← decodeField extensions fields "num_locals"
      clauses := ← decodeField extensions fields "num_clauses"
      sections := ← decodeField extensions fields "section_counter"
      propertyTypes := ← decodeField extensions fields "property_ty_counter"
      maxDepth := ← decodeField extensions fields "max_nesting_depth" }

instance : Codec BatchStatistics where
  encode b := .record (some (.plain "BatchStatistics")) [
    encodeField "num_classes" b.classes,
    encodeField "total_properties" b.properties,
    encodeField "total_methods" b.methods,
    encodeField "total_sections" b.sections,
    encodeField "min_methods" b.minMethods,
    encodeField "max_methods" b.maxMethods,
    encodeField "min_properties" b.minProperties,
    encodeField "max_properties" b.maxProperties,
    encodeField "max_nesting_depth" b.maxDepth,
    encodeField "section_counter" b.sectionKinds,
    encodeField "property_ty_counter" b.propertyTypes]
  decode extensions v := do
    let fields ← fieldsOf? "BatchStatistics" v
    return {
      classes := ← decodeField extensions fields "num_classes"
      properties := ← decodeField extensions fields "total_properties"
      methods := ← decodeField extensions fields "total_methods"
      sections := ← decodeField extensions fields "total_sections"
      minMethods := ← decodeField extensions fields "min_methods"
      maxMethods := ← decodeField extensions fields "max_methods"
      minProperties := ← decodeField extensions fields "min_properties"
      maxProperties := ← decodeField extensions fields "max_properties"
      maxDepth := ← decodeField extensions fields "max_nesting_depth"
      sectionKinds := ← decodeField extensions fields "section_counter"
      propertyTypes := ← decodeField extensions fields "property_ty_counter" }

namespace Policy

/-- A policy as a record of its fields in order. -/
def toRecord (p : Policy) : List (Word × Value) := [
  encodeField Field.name.label p.name,
  encodeField Field.maxDepth.label p.maxDepth,
  encodeField Field.sectionCount.label p.sectionCount,
  encodeField Field.branchCount.label p.branchCount,
  encodeField Field.clauseCount.label p.clauseCount,
  encodeField Field.negation.label p.negation,
  encodeField Field.loopStart.label p.loopStart,
  encodeField Field.loopSpan.label p.loopSpan,
  encodeField Field.integerLiteral.label p.integerLiteral,
  encodeField Field.realLiteral.label p.realLiteral,
  encodeField Field.truth.label p.truth,
  encodeField Field.localCount.label p.localCount,
  encodeField Field.readonlyChance.label p.readonlyChance,
  encodeField Field.typeLength.label p.typeLength,
  encodeField Field.variableLength.label p.variableLength,
  encodeField Field.loopVariableLength.label p.loopVariableLength,
  encodeField Field.methodLength.label p.methodLength]

/-- The policy that the fields of a record describe. -/
def ofRecord? (extensions : Parser.Extensions) (fields : List (Word × Value)) : Option Policy := do
  return {
    name := ← decodeField extensions fields Field.name.label
    maxDepth := ← decodeField extensions fields Field.maxDepth.label
    sectionCount := ← decodeField extensions fields Field.sectionCount.label
    branchCount := ← decodeField extensions fields Field.branchCount.label
    clauseCount := ← decodeField extensions fields Field.clauseCount.label
    negation := ← decodeField extensions fields Field.negation.label
    loopStart := ← decodeField extensions fields Field.loopStart.label
    loopSpan := ← decodeField extensions fields Field.loopSpan.label
    integerLiteral := ← decodeField extensions fields Field.integerLiteral.label
    realLiteral := ← decodeField extensions fields Field.realLiteral.label
    truth := ← decodeField extensions fields Field.truth.label
    localCount := ← decodeField extensions fields Field.localCount.label
    readonlyChance := ← decodeField extensions fields Field.readonlyChance.label
    typeLength := ← decodeField extensions fields Field.typeLength.label
    variableLength := ← decodeField extensions fields Field.variableLength.label
    loopVariableLength := ← decodeField extensions fields Field.loopVariableLength.label
    methodLength := ← decodeField extensions fields Field.methodLength.label }

end Policy

instance : Codec Policy where
  encode p := .record (some (.plain "Policy")) p.toRecord
  decode extensions v := (fieldsOf? "Policy" v).bind (Policy.ofRecord? extensions)

/-- The accepted policy that a text denotes. -/
def Policy.ofText (text : String) : Except Refusal Policy :=
  match Ron.read Policy text with
  | none => .error .malformedPolicy
  | some p => (Draft.ofPolicy p).build.mapError .rejectedPolicy

end ClassMill
