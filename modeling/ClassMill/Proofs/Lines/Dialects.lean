import ClassMill.Proofs.Lines.Basic

/-!
# What the dialect decides

The source of a class is the declaration of its package, the head of the class, its properties and
the rest. A dialect decides how the package and each property are declared and nothing else:
sections and methods have the same lines in all dialects, however deep they are nested.
-/

namespace ClassMill

variable (d e : Dialect)

mutual

/-- The lines of a section are the same in all dialects. -/
theorem Section.lines_dialect : ∀ (s : Section) (indent : Nat), s.lines d indent = s.lines e indent
  | .leaf statement, indent => by
    rw [Section.lines, Section.lines]
    rfl
  | .branch chain, indent => by
    rw [Section.lines, Section.lines, Chain.lines_dialect chain true indent]
    rfl
  | .loop counter start stop body, indent => by
    rw [Section.lines, Section.lines, Section.lines_dialect body (indent + Emitter.step)]
    rfl

/-- The lines of the branches of an if chain are the same in all dialects. -/
theorem Chain.lines_dialect : ∀ (c : Chain) (first : Bool) (indent : Nat),
    c.lines d first indent = c.lines e first indent
  | .empty, first, indent => by
    rw [Chain.lines, Chain.lines]
  | .otherwise body, first, indent => by
    rw [Chain.lines, Chain.lines, Section.lines_dialect body (indent + Emitter.step)]
    rfl
  | .conditional condition body rest, first, indent => by
    rw [Chain.lines, Chain.lines, Section.lines_dialect body (indent + Emitter.step),
      Chain.lines_dialect rest false indent]
    rfl

end

/-- The lines of a method are the same in all dialects. -/
theorem Method.lines_dialect (m : Method) (indent : Nat) : m.lines d indent = m.lines e indent := by
  have hsections : ∀ inner : Nat,
      m.sections.flatMap (fun item => item.lines d inner) =
        m.sections.flatMap fun item => item.lines e inner := fun inner =>
    congrArg m.sections.flatMap (funext fun item => item.lines_dialect d e inner)
  rw [Method.lines, Method.lines, hsections]
  rfl

/-- The text of a section is the same in all dialects. -/
theorem Section.source_dialect (s : Section) (indent : Nat) :
    s.source d indent = s.source e indent := by
  rw [source_eq_textOf, source_eq_textOf, s.lines_dialect d e]

namespace ClassDecl

variable (c : ClassDecl)

/-- The text between the declaration of the package and the first property. -/
def heading : String := "\n\n" ++ Dialect.core.classHead c.name ++ "\n"

/-- The text of the properties, a line for each. -/
def propertyText : String :=
  String.join (c.properties.map fun p => "  " ++ d.propertyLine p ++ "\n")

/-- The text after the last property: the methods and the end of the class. -/
def ending : String := Line.textOf (c.methodLines .core ++ [⟨0, Dialect.core.blockEnd⟩])

theorem methodLines_dialect : c.methodLines d = c.methodLines e :=
  congrArg c.methods.flatMap
    (funext fun m => congrArg (Line.blank :: ·) (m.lines_dialect d e Emitter.step))

theorem textOf_propertyLines : Line.textOf (c.propertyLines d) = c.propertyText d :=
  Line.textOf_map Emitter.step d.propertyLine c.properties

/-- Only the declarations of the package and of the properties depend on the dialect, and nothing
after the declaration of the package depends on the package. -/
theorem source_eq_append :
    c.source d = d.packageLine c.package ++ (c.heading ++ c.propertyText d ++ c.ending) := by
  let front : List Line :=
    [⟨0, d.packageLine c.package⟩, Line.blank, ⟨0, Dialect.core.classHead c.name⟩]
  have hlines : c.lines d = front ++
      (c.propertyLines d ++ (c.methodLines .core ++ [⟨0, Dialect.core.blockEnd⟩])) := by
    rw [lines, c.methodLines_dialect d .core]
    rfl
  have hfront : Line.textOf front = d.packageLine c.package ++ c.heading := by
    apply String.toList_injective
    simp [front, Line.textOf, Line.allChars, Line.chars, Line.blank, heading]
  rw [source_eq_textOf, hlines, Line.textOf_append, Line.textOf_append, hfront,
    textOf_propertyLines, ending, String.append_assoc, String.append_assoc]

end ClassDecl

/-- Without a type whose word or default the dialects write differently, a property reads the
same in both. -/
theorem Dialect.propertyLine_eq {p : Property} (h : p.type = .int ∨ p.type = .string) :
    extended.propertyLine p = core.propertyLine p := by
  have htype : extended.typeName p.type = core.typeName p.type := by
    rcases h with h | h <;> rw [h] <;> rfl
  have hcast : extended.casts p.type = false := by
    rcases h with h | h <;> rw [h] <;> rfl
  have hdefault :
      extended.defaultLiteral p.type p.default = core.defaultLiteral p.type p.default := by
    cases hp : p.default with
    | ordinal n =>
      rw [defaultLiteral, defaultLiteral, hcast]
      rfl
    | text content => rfl
    | boolean value => rfl
  rw [propertyLine, propertyLine, htype, hdefault]

/-- The extended source of a class is the core source with a semicolon after the declaration of
the package and with the line of each property, in its place, as the extended dialect writes it.
A section has one text in both dialects. If all types are `int` or `String`, the semicolon is all
that is different. -/
theorem ClassDecl.source_extended (c : ClassDecl) :
    (c.source .core =
        Dialect.core.packageLine c.package ++ (c.heading ++ c.propertyText .core ++ c.ending) ∧
      c.source .extended =
        Dialect.core.packageLine c.package ++ ";" ++
          (c.heading ++ c.propertyText .extended ++ c.ending)) ∧
      (∀ s : Section,
        (∀ indent : Nat, s.source .extended indent = s.source .core indent) ∧
          ∀ indent : UInt64, s.sourceAt .extended indent = s.sourceAt .core indent) ∧
      ((∀ p ∈ c.properties, p.type = .int ∨ p.type = .string) →
        ∃ rest, c.source .core = Dialect.core.packageLine c.package ++ rest ∧
          c.source .extended = Dialect.core.packageLine c.package ++ ";" ++ rest) := by
  have hextended : c.source .extended = Dialect.core.packageLine c.package ++ ";" ++
      (c.heading ++ c.propertyText .extended ++ c.ending) := c.source_eq_append .extended
  have hsection (s : Section) (indent : Nat) : s.source .extended indent = s.source .core indent :=
    s.source_dialect .extended .core indent
  refine ⟨⟨c.source_eq_append .core, hextended⟩,
    fun s => ⟨hsection s, fun indent => ?_⟩, fun h => ?_⟩
  · rw [Section.sourceAt, Section.sourceAt, hsection]
  · have hproperties : c.propertyText .extended = c.propertyText .core := by
      have hline : ∀ p ∈ c.properties, "  " ++ Dialect.extended.propertyLine p ++ "\n" =
          "  " ++ Dialect.core.propertyLine p ++ "\n" := fun p hp => by
        rw [Dialect.propertyLine_eq (h p hp)]
      rw [propertyText, propertyText, List.map_congr_left hline]
    rw [hproperties] at hextended
    exact ⟨_, c.source_eq_append .core, hextended⟩

/-- A class whose properties are numbers and texts, with defaults of other types. -/
def ClassDecl.mistyped : ClassDecl where
  package := "a;\nb"
  name := "C"
  properties := [⟨1, .int, true, .text "1 as long"⟩, ⟨2, .string, false, .ordinal 3⟩]
  methods := [⟨"m", [], [.branch (.otherwise (.leaf .throw))], 0⟩]

theorem ClassDecl.source_extended_mistyped :
    (∀ p ∈ mistyped.properties, p.type = .int ∨ p.type = .string) ∧
      ∃ rest, mistyped.source .core = "package a;\nb" ++ rest ∧
        mistyped.source .extended = "package a;\nb;" ++ rest := by
  have htypes : ∀ p ∈ mistyped.properties, p.type = .int ∨ p.type = .string := by decide
  obtain ⟨rest, hcore, hextended⟩ := mistyped.source_extended.2.2 htypes
  exact ⟨htypes, rest, hcore, hextended⟩

end ClassMill
