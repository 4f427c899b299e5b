import ClassMill.Emit

/-!
# The lines of written trees

An emitter threads text and indentation through a tree. Here every tree has its lines as data,
each with its own indentation, and writing the tree is shown to append exactly these lines.
Statements about written text are proved about the lines and carried over.
-/

namespace ClassMill

/-- One line of source text: its indentation and what stands after it. -/
structure Line where
  indent : Nat
  content : String
  deriving DecidableEq

namespace Line

/-- A line without indentation and content. -/
def blank : Line := ⟨0, ""⟩

/-- The characters of a line before its line break. -/
def chars (l : Line) : List Char := List.replicate l.indent ' ' ++ l.content.toList

/-- The characters of lines, a line break after each. -/
def allChars (ls : List Line) : List Char := ls.flatMap fun l => l.chars ++ ['\n']

/-- Lines as text. -/
def textOf (ls : List Line) : String := String.ofList (allChars ls)

theorem allChars_append (ls ms : List Line) : allChars (ls ++ ms) = allChars ls ++ allChars ms := by
  simp [allChars]

theorem textOf_append (ls ms : List Line) : textOf (ls ++ ms) = textOf ls ++ textOf ms := by
  rw [textOf, allChars_append, String.ofList_append]
  rfl

theorem textOf_flatMap {α : Type} (lines : α → List Line) (items : List α) :
    textOf (items.flatMap lines) = String.join (items.map fun item => textOf (lines item)) := by
  apply String.toList_injective
  simp [textOf, allChars, String.toList_join, List.flatMap_map, List.flatMap_assoc]

/-- The text of a line for each item, all with the same indentation. -/
theorem textOf_map {α : Type} (indent : Nat) (content : α → String) (items : List α) :
    textOf (items.map fun item => ⟨indent, content item⟩) =
      String.join (items.map fun item => Emitter.margin indent ++ content item ++ "\n") := by
  apply String.toList_injective
  simp [textOf, allChars, chars, Emitter.margin, String.toList_join, List.flatMap_map]

end Line

mutual

/-- The lines of a section at an indentation. -/
def Section.lines (dialect : Dialect) : Section → (indent : Nat) → List Line
  | .leaf statement, indent => [⟨indent, dialect.leafLine statement⟩]
  | .branch chain, indent => chain.lines dialect true indent ++ [⟨indent, dialect.blockEnd⟩]
  | .loop counter start stop body, indent =>
    ⟨indent, dialect.loopHead counter start stop⟩ ::
      (body.lines dialect (indent + Emitter.step) ++ [⟨indent, dialect.blockEnd⟩])

/-- The lines of the branches of an if chain, without the end of its last block. -/
def Chain.lines (dialect : Dialect) : Chain → (first : Bool) → (indent : Nat) → List Line
  | .empty, _, _ => []
  | .otherwise body, _, indent =>
    ⟨indent, dialect.elseHead⟩ :: body.lines dialect (indent + Emitter.step)
  | .conditional condition body rest, first, indent =>
    ⟨indent, if first then dialect.ifHead condition else dialect.elseIfHead condition⟩ ::
      (body.lines dialect (indent + Emitter.step) ++ rest.lines dialect false indent)

end

/-- The lines of a method at an indentation. -/
def Method.lines (dialect : Dialect) (m : Method) (indent : Nat) : List Line :=
  let inner := indent + Emitter.step
  ⟨indent, dialect.methodHead m.name⟩ ::
    (m.locals.map (fun item => ⟨inner, dialect.localLine item⟩) ++ Line.blank ::
      (m.sections.flatMap (fun item => item.lines dialect inner) ++
        [Line.blank, ⟨inner, dialect.returnLine m.result⟩, ⟨indent, dialect.blockEnd⟩]))

namespace ClassDecl

/-- The lines of the properties of a class. -/
def propertyLines (dialect : Dialect) (c : ClassDecl) : List Line :=
  c.properties.map fun p => ⟨Emitter.step, dialect.propertyLine p⟩

/-- The lines of the methods of a class, each after a blank line. -/
def methodLines (dialect : Dialect) (c : ClassDecl) : List Line :=
  c.methods.flatMap fun m => Line.blank :: m.lines dialect Emitter.step

/-- The lines of a class. -/
def lines (dialect : Dialect) (c : ClassDecl) : List Line :=
  ⟨0, dialect.packageLine c.package⟩ :: Line.blank :: ⟨0, dialect.classHead c.name⟩ ::
    (c.propertyLines dialect ++ (c.methodLines dialect ++ [⟨0, dialect.blockEnd⟩]))

end ClassDecl

namespace Emitter

/-- Appends lines, whatever the indentation of the emitter is. -/
def write (ls : List Line) (e : Emitter) : Emitter := { e with text := e.text ++ Line.textOf ls }

@[simp]
theorem indent_write (ls : List Line) (e : Emitter) : (e.write ls).indent = e.indent :=
  rfl

@[simp]
theorem write_nil (e : Emitter) : e.write [] = e := by
  simp [write, Line.textOf, Line.allChars]

@[simp]
theorem write_write (ls ms : List Line) (e : Emitter) :
    (e.write ls).write ms = e.write (ls ++ ms) := by
  simp [write, Line.textOf_append, String.append_assoc]

theorem line_eq_write (content : String) (e : Emitter) :
    e.line content = e.write [⟨e.indent, content⟩] := by
  simp only [line, write, Emitter.mk.injEq, and_true]
  apply String.toList_injective
  simp [margin, Line.textOf, Line.allChars, Line.chars]

theorem blank_eq_write (e : Emitter) : e.blank = e.write [Line.blank] := by
  simp only [blank, write, Emitter.mk.injEq, and_true]
  apply String.toList_injective
  simp [Line.textOf, Line.allChars, Line.chars, Line.blank]

@[simp]
theorem indent_enter (e : Emitter) : e.enter.indent = e.indent + step :=
  rfl

@[simp]
theorem enter_write (ls : List Line) (e : Emitter) : (e.write ls).enter = e.enter.write ls :=
  rfl

@[simp]
theorem leave_write (ls : List Line) (e : Emitter) : (e.write ls).leave = e.leave.write ls :=
  rfl

@[simp]
theorem leave_enter (e : Emitter) : e.enter.leave = e := by
  simp [enter, leave]

end Emitter

mutual

/-- Writing a section appends its lines at the indentation of the emitter and changes nothing
else. -/
theorem Section.emit_eq_write (dialect : Dialect) : ∀ (s : Section) (e : Emitter),
    s.emit dialect e = e.write (s.lines dialect e.indent)
  | .leaf statement, e => by
    rw [Section.emit, Section.lines, Emitter.line_eq_write]
  | .branch chain, e => by
    rw [Section.emit, Section.lines, Chain.emit_eq_write dialect chain true e,
      Emitter.line_eq_write]
    simp
  | .loop counter start stop body, e => by
    rw [Section.emit, Section.lines, Emitter.line_eq_write, Emitter.line_eq_write,
      Section.emit_eq_write dialect body]
    simp

/-- Writing the branches of an if chain appends their lines. -/
theorem Chain.emit_eq_write (dialect : Dialect) : ∀ (c : Chain) (first : Bool) (e : Emitter),
    c.emit dialect first e = e.write (c.lines dialect first e.indent)
  | .empty, first, e => by
    rw [Chain.emit, Chain.lines, Emitter.write_nil]
  | .otherwise body, first, e => by
    rw [Chain.emit, Chain.lines, Emitter.line_eq_write, Section.emit_eq_write dialect body]
    simp
  | .conditional condition body rest, first, e => by
    rw [Chain.emit, Chain.lines, Emitter.line_eq_write, Section.emit_eq_write dialect body,
      Chain.emit_eq_write dialect rest]
    simp

end

namespace Emitter

theorem locals_eq_write (dialect : Dialect) (items : List Local) (e : Emitter) :
    e.locals dialect items =
      e.write (items.map fun item => ⟨e.indent, dialect.localLine item⟩) := by
  induction items generalizing e with
  | nil => simp [locals]
  | cons item items ih =>
    have hstep : e.locals dialect (item :: items) =
        (e.line (dialect.localLine item)).locals dialect items := rfl
    rw [hstep, ih, line_eq_write]
    simp

theorem sections_eq_write (dialect : Dialect) (items : List Section) (e : Emitter) :
    e.sections dialect items =
      e.write (items.flatMap fun item => item.lines dialect e.indent) := by
  induction items generalizing e with
  | nil => simp [sections]
  | cons item items ih =>
    have hstep : e.sections dialect (item :: items) =
        (item.emit dialect e).sections dialect items := rfl
    rw [hstep, ih, Section.emit_eq_write]
    simp

theorem properties_eq_write (dialect : Dialect) (items : List Property) (e : Emitter) :
    e.properties dialect items =
      e.write (items.map fun item => ⟨e.indent, dialect.propertyLine item⟩) := by
  induction items generalizing e with
  | nil => simp [properties]
  | cons item items ih =>
    have hstep : e.properties dialect (item :: items) =
        (e.line (dialect.propertyLine item)).properties dialect items := rfl
    rw [hstep, ih, line_eq_write]
    simp

theorem method_eq_write (dialect : Dialect) (m : Method) (e : Emitter) :
    e.method dialect m = e.write (m.lines dialect e.indent) := by
  simp only [method, line_eq_write, blank_eq_write, locals_eq_write, sections_eq_write,
    enter_write, leave_write, leave_enter, write_write, indent_write, indent_enter]
  simp [Method.lines]

theorem methods_eq_write (dialect : Dialect) (items : List Method) (e : Emitter) :
    e.methods dialect items =
      e.write (items.flatMap fun item => Line.blank :: item.lines dialect e.indent) := by
  induction items generalizing e with
  | nil => simp [methods]
  | cons item items ih =>
    have hstep : e.methods dialect (item :: items) =
        (e.blank.method dialect item).methods dialect items := rfl
    rw [hstep, ih, method_eq_write, blank_eq_write]
    simp

theorem classDecl_eq_write (dialect : Dialect) (c : ClassDecl) :
    (start 0).classDecl dialect c = (start 0).write (c.lines dialect) := by
  have hindent : (start 0).indent = 0 := rfl
  simp only [classDecl, line_eq_write, blank_eq_write, properties_eq_write, methods_eq_write,
    enter_write, leave_write, leave_enter, write_write, indent_write, indent_enter, hindent]
  simp [ClassDecl.lines, ClassDecl.propertyLines, ClassDecl.methodLines]

end Emitter

/-- The source of a section is the text of its lines. -/
theorem Section.source_eq_textOf (dialect : Dialect) (s : Section) (indent : Nat) :
    s.source dialect indent = Line.textOf (s.lines dialect indent) := by
  rw [source, emit_eq_write]
  simp [Emitter.write, Emitter.start]

/-- The source of a class is the text of its lines. -/
theorem ClassDecl.source_eq_textOf (dialect : Dialect) (c : ClassDecl) :
    c.source dialect = Line.textOf (c.lines dialect) := by
  rw [source, Emitter.classDecl_eq_write]
  simp [Emitter.write, Emitter.start]

end ClassMill
