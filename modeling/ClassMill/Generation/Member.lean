import ClassMill.Generation.Block

/-!
# Drawing methods, properties and classes

A method is drawn as its name, its two counts, its locals, its sections with the depth of the
policy, and its result. A property is drawn as its type, whether it is readonly, and its
default value where the type leaves a choice. A class is drawn as its name, its properties and
its methods.
-/

namespace ClassMill

open ClassMill.Random

/-- Draws an initial value of a shape. -/
def Initializer.draw (ctx : Context) : InitializerKind → Draw Initializer
  | .quotedBoolean => return .quotedBoolean (← ctx.chooseTruth)
  | .integer => return .integer (← ctx.chooseInteger)
  | .real => return .real (← ctx.chooseReal)
  | .quotedName => return .quotedName (← ctx.chooseName .localVariable)

/-- Draws a local variable. -/
def Local.draw (ctx : Context) : Draw Local := do
  let name ← ctx.chooseName .localVariable
  let kind ← ctx.chooseInitializerKind
  return ⟨name, ← Initializer.draw ctx kind⟩

namespace Method

/-- The bytes that one local variable takes. -/
def localSize : Nat := 48

/-- The bytes that one section takes. -/
def sectionSize : Nat := 48

/-- Draws a method. -/
def draw (ctx : Context) : Draw Method := do
  let name ← ctx.chooseName .method
  let localCount ← ctx.chooseLocalCount
  let sectionCount ← ctx.chooseSectionCount
  let locals ← Draw.listOf localSize (Local.draw ctx) localCount.toNat
  let sections ←
    Draw.listOf sectionSize (Section.drawAt ctx ctx.policy.maxDepth) sectionCount.toNat
  return ⟨name, locals, sections, ← ctx.chooseInteger⟩

/-- The bytes that one method takes. -/
def size : Nat := 80

/-- Draws a number of methods. -/
def drawList (ctx : Context) (count : Nat) : Draw (List Method) :=
  Draw.listOf size (draw ctx) count

end Method

/-- Draws the default value of the property of a type at a position. -/
def DefaultValue.draw (ctx : Context) (ordinal : UInt64) : PropertyType → Draw DefaultValue
  | .string => return .text ("Property" ++ wordText ordinal)
  | .boolean => return .boolean (← ctx.chooseTruth)
  | _ => return .ordinal ordinal

namespace Property

/-- Draws the property at a position. -/
def draw (ctx : Context) (ordinal : UInt64) : Draw Property := do
  let type ← ctx.choosePropertyType
  let readonly ← ctx.chooseReadonly
  return ⟨ordinal, type, readonly, ← DefaultValue.draw ctx ordinal type⟩

/-- The bytes that one property takes. -/
def size : Nat := 40

/-- The positions of a number of properties. -/
def ordinals (count : Nat) : List UInt64 := (List.range' 1 count).map UInt64.ofNat

/-- Draws the properties at the first positions. -/
def drawList (ctx : Context) (count : Nat) : Draw (List Property) := do
  Draw.ofExcept (reserve count size)
  Draw.forEach (draw ctx) (ordinals count)

end Property

/-- Draws a class with the given numbers of properties and methods. -/
def ClassDecl.draw (ctx : Context) (package : String) (properties methods : Nat) :
    Draw ClassDecl := do
  let name ← ctx.chooseName .type
  let properties ← Property.drawList ctx properties
  return ⟨package, name, properties, ← Method.drawList ctx methods⟩

end ClassMill
