import ClassMill.Tree.ClassDecl

/-!
# The strings of a tree

A tree holds strings as its package, as names and as the contents of text literals. Everything
else in it is a number, a boolean or a kind, so whether a tree can be written one statement a line
depends on these strings only.
-/

namespace ClassMill

mutual

/-- The loop counters of a section. -/
def Section.texts : Section → List String
  | .leaf _ => []
  | .branch chain => chain.texts
  | .loop counter _ _ body => counter :: body.texts

/-- The loop counters in the branches of an if chain. -/
def Chain.texts : Chain → List String
  | .empty => []
  | .otherwise body => body.texts
  | .conditional _ body rest => body.texts ++ rest.texts

end

/-- The name in an initial value, if it holds one. -/
def Initializer.texts : Initializer → List String
  | .quotedName name => [name]
  | _ => []

/-- The strings of a local variable. -/
def Local.texts (l : Local) : List String := l.name :: l.initial.texts

/-- The strings of a method. -/
def Method.texts (m : Method) : List String :=
  m.name :: (m.locals.flatMap Local.texts ++ m.sections.flatMap Section.texts)

/-- The content of a text default. -/
def DefaultValue.texts : DefaultValue → List String
  | .text content => [content]
  | _ => []

/-- The strings of a class. -/
def ClassDecl.texts (c : ClassDecl) : List String :=
  c.package :: c.name ::
    (c.properties.flatMap (·.default.texts) ++ c.methods.flatMap Method.texts)

/-- No line break in any of the strings. -/
def OneLine (texts : List String) : Prop := ∀ text ∈ texts, '\n' ∉ text.toList

instance (texts : List String) : Decidable (OneLine texts) :=
  inferInstanceAs (Decidable (∀ text ∈ texts, '\n' ∉ text.toList))

namespace OneLine

@[simp]
theorem cons_iff {text : String} {texts : List String} :
    OneLine (text :: texts) ↔ '\n' ∉ text.toList ∧ OneLine texts :=
  List.forall_mem_cons

@[simp]
theorem append_iff {texts more : List String} :
    OneLine (texts ++ more) ↔ OneLine texts ∧ OneLine more :=
  List.forall_mem_append

@[simp]
theorem flatMap_iff {α : Type} {items : List α} {f : α → List String} :
    OneLine (items.flatMap f) ↔ ∀ item ∈ items, OneLine (f item) :=
  List.forall_mem_flatMap

end OneLine

end ClassMill
