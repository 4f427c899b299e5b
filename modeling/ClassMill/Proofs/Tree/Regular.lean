import ClassMill.Name
import ClassMill.Proofs.Tree.Condition

/-!
# Regular trees

A tree is regular if its names are words of letters, its free texts stay on one line, its types
belong to the dialect and every if chain begins with a conditional branch. Generated trees are
regular, and the written form of a regular tree can be read line by line.
-/

namespace ClassMill

namespace Name

/-- A nonempty run of ASCII letters. -/
def IsWord (name : String) : Prop := name ≠ "" ∧ ∀ c ∈ name.toList, c.isAlpha = true

instance (name : String) : Decidable (IsWord name) :=
  decidable_of_iff (name ≠ "" ∧ name.toList.all Char.isAlpha = true)
    (and_congr_right fun _ => List.all_eq_true)

/-- A word with the ending of method names. -/
def IsMethodName (name : String) : Prop := ∃ stem, IsWord stem ∧ name = stem ++ methodSuffix

end Name

mutual

/-- The loop counters are words, and every if chain begins with a conditional branch. -/
def Section.Regular : Section → Prop
  | .leaf _ => True
  | .branch chain => 0 < chain.conditionalCount ∧ chain.Regular
  | .loop counter _ _ body => Name.IsWord counter ∧ body.Regular

/-- The bodies of all branches are regular. -/
def Chain.Regular : Chain → Prop
  | .empty => True
  | .otherwise body => body.Regular
  | .conditional _ body rest => body.Regular ∧ rest.Regular

end

/-- A quoted name is a word and not reserved, so that it is not taken for a boolean. -/
def Initializer.Regular : Initializer → Prop
  | .quotedName name => Name.IsWord name ∧ name ∉ Name.reservedWords
  | _ => True

/-- The name of a local variable is a word, and its initial value is regular. -/
structure Local.Regular (l : Local) : Prop where
  name : Name.IsWord l.name
  initial : l.initial.Regular

/-- The name of a method carries its ending, and its parts are regular. -/
structure Method.Regular (m : Method) : Prop where
  name : Name.IsMethodName m.name
  locals : ∀ l ∈ m.locals, l.Regular
  sections : ∀ s ∈ m.sections, s.Regular

/-- A text default stays on one line. -/
def DefaultValue.Regular : DefaultValue → Prop
  | .text content => '\n' ∉ content.toList
  | _ => True

/-- The type of a property belongs to the dialect, and its default is regular. -/
structure Property.Regular (dialect : Dialect) (p : Property) : Prop where
  type : p.type ∈ dialect.propertyTypes
  default : p.default.Regular

/-- The package stays on one line, and all parts of the class are regular. -/
structure ClassDecl.Regular (dialect : Dialect) (c : ClassDecl) : Prop where
  package : '\n' ∉ c.package.toList
  name : Name.IsWord c.name
  properties : ∀ p ∈ c.properties, p.Regular dialect
  methods : ∀ m ∈ c.methods, m.Regular

end ClassMill
