import ClassMill.Proofs.Lines.Dialects
import ClassMill.Proofs.Lines.Indentation

/-!
# Sections in their place

An emitter changes its indentation while it writes a section and restores it. So a section is
written after any text and at any indentation as it is written alone, further to the right with
more indentation, and the source of a class holds the text of each section as it is.
-/

namespace ClassMill

/-- The text with spaces in front of every line. -/
def Text.indented (width : Nat) (text : String) : String :=
  String.ofList ((Text.lines text.toList).flatMap fun line =>
    List.replicate width ' ' ++ line ++ ['\n'])

namespace Line

/-- A line further to the right. -/
def shift (width : Nat) (l : Line) : Line := { l with indent := l.indent + width }

theorem chars_shift (width : Nat) (l : Line) :
    (l.shift width).chars = List.replicate width ' ' ++ l.chars := by
  rw [chars, chars, ← List.append_assoc, List.replicate_append_replicate, shift, Nat.add_comm]

/-- Spaces in front of every line shift the lines of a text. -/
theorem indented_textOf (width : Nat) {ls : List Line} (h : ∀ l ∈ ls, l.Tidy) :
    Text.indented width (textOf ls) = textOf (ls.map (shift width)) := by
  rw [Text.indented, lines_textOf h, textOf, allChars, List.flatMap_map, List.flatMap_map]
  simp only [chars_shift]

end Line

mutual

/-- More indentation shifts the lines of a section. -/
theorem Section.lines_add (dialect : Dialect) (width : Nat) : ∀ (s : Section) (indent : Nat),
    s.lines dialect (indent + width) = (s.lines dialect indent).map (Line.shift width)
  | .leaf statement, indent => by
    rw [Section.lines, Section.lines]
    rfl
  | .branch chain, indent => by
    rw [Section.lines, Section.lines, chain.lines_add dialect width true indent, List.map_append]
    rfl
  | .loop counter start stop body, indent => by
    have hbody := body.lines_add dialect width (indent + Emitter.step)
    rw [Nat.add_right_comm] at hbody
    rw [Section.lines, Section.lines, hbody, List.map_cons, List.map_append]
    rfl

/-- More indentation shifts the lines of the branches of an if chain. -/
theorem Chain.lines_add (dialect : Dialect) (width : Nat) :
    ∀ (c : Chain) (first : Bool) (indent : Nat),
      c.lines dialect first (indent + width) =
        (c.lines dialect first indent).map (Line.shift width)
  | .empty, first, indent => by
    rw [Chain.lines, Chain.lines]
    rfl
  | .otherwise body, first, indent => by
    have hbody := body.lines_add dialect width (indent + Emitter.step)
    rw [Nat.add_right_comm] at hbody
    rw [Chain.lines, Chain.lines, hbody]
    rfl
  | .conditional condition body rest, first, indent => by
    have hbody := body.lines_add dialect width (indent + Emitter.step)
    rw [Nat.add_right_comm] at hbody
    rw [Chain.lines, Chain.lines, hbody, rest.lines_add dialect width false indent, List.map_cons,
      List.map_append]
    rfl

end

mutual

/-- A section is indented as far as it is deep at most, and nothing of it stands to its left. -/
theorem Section.indent_bounds (dialect : Dialect) : ∀ (s : Section) (indent : Nat),
    ∀ l ∈ s.lines dialect indent, indent ≤ l.indent ∧ l.indent ≤ indent + Emitter.step * s.depth
  | .leaf statement, indent, l, hl => by
    rw [Section.lines, List.mem_singleton] at hl
    subst hl
    exact ⟨Nat.le_refl indent, Nat.le_add_right indent _⟩
  | .branch chain, indent, l, hl => by
    rw [Section.lines, List.mem_append, List.mem_singleton] at hl
    rw [Section.depth]
    rcases hl with hl | rfl
    · exact chain.indent_bounds dialect true indent l hl
    · exact ⟨Nat.le_refl indent, Nat.le_add_right indent _⟩
  | .loop counter start stop body, indent, l, hl => by
    rw [Section.lines, List.mem_cons, List.mem_append, List.mem_singleton] at hl
    rw [Section.depth, Nat.mul_succ]
    rcases hl with rfl | hl | rfl
    · exact ⟨Nat.le_refl indent, Nat.le_add_right indent _⟩
    · have hbody := body.indent_bounds dialect (indent + Emitter.step) l hl
      omega
    · exact ⟨Nat.le_refl indent, Nat.le_add_right indent _⟩

/-- The branches of an if chain are indented as far as the chain is deep at most. -/
theorem Chain.indent_bounds (dialect : Dialect) : ∀ (c : Chain) (first : Bool) (indent : Nat),
    ∀ l ∈ c.lines dialect first indent,
      indent ≤ l.indent ∧ l.indent ≤ indent + Emitter.step * (c.depth + 1)
  | .empty, first, indent, l, hl => by
    rw [Chain.lines] at hl
    cases hl
  | .otherwise body, first, indent, l, hl => by
    rw [Chain.lines, List.mem_cons] at hl
    rw [Chain.depth, Nat.mul_succ]
    rcases hl with rfl | hl
    · exact ⟨Nat.le_refl indent, Nat.le_add_right indent _⟩
    · have hbody := body.indent_bounds dialect (indent + Emitter.step) l hl
      omega
  | .conditional condition body rest, first, indent, l, hl => by
    rw [Chain.lines, List.mem_cons, List.mem_append] at hl
    rw [Chain.depth, Nat.mul_succ]
    have hmaxBody : Emitter.step * body.depth ≤ Emitter.step * max body.depth rest.depth :=
      Nat.mul_le_mul_left _ (Nat.le_max_left ..)
    have hmaxRest : Emitter.step * rest.depth ≤ Emitter.step * max body.depth rest.depth :=
      Nat.mul_le_mul_left _ (Nat.le_max_right ..)
    rcases hl with rfl | hl | hl
    · exact ⟨Nat.le_refl indent, Nat.le_add_right indent _⟩
    · have hbody := body.indent_bounds dialect (indent + Emitter.step) l hl
      omega
    · have hrest := rest.indent_bounds dialect false indent l hl
      rw [Nat.mul_succ] at hrest
      omega

end

/-! ## The parts of a class -/

/-- The text of a method before its sections. -/
def Method.opening (dialect : Dialect) (m : Method) : String :=
  "\n  " ++ dialect.methodHead m.name ++ "\n" ++
    String.join (m.locals.map fun l => "    " ++ dialect.localLine l ++ "\n") ++ "\n"

/-- The text of a method after its sections. -/
def Method.closing (dialect : Dialect) (m : Method) : String :=
  "\n    " ++ dialect.returnLine m.result ++ "\n  " ++ dialect.blockEnd ++ "\n"

/-- The text of a method, after a blank line, has the texts of its sections one after the other. -/
theorem Method.textOf_lines (dialect : Dialect) (m : Method) :
    Line.textOf (Line.blank :: m.lines dialect Emitter.step) =
      m.opening dialect ++ String.join (m.sections.map fun s => s.source dialect 4) ++
        m.closing dialect := by
  let front : List Line := [Line.blank, ⟨2, dialect.methodHead m.name⟩]
  let locals : List Line := m.locals.map fun l => ⟨4, dialect.localLine l⟩
  let sections : List Line := m.sections.flatMap fun s => s.lines dialect 4
  let rear : List Line :=
    [Line.blank, ⟨4, dialect.returnLine m.result⟩, ⟨2, dialect.blockEnd⟩]
  have hlines : Line.blank :: m.lines dialect Emitter.step =
      front ++ locals ++ [Line.blank] ++ sections ++ rear := by
    simp [front, locals, sections, rear, Method.lines, Emitter.step]
  have hopening : Line.textOf (front ++ locals ++ [Line.blank]) = m.opening dialect := by
    have hlocals : Line.textOf locals =
        String.join (m.locals.map fun l => "    " ++ dialect.localLine l ++ "\n") :=
      Line.textOf_map 4 dialect.localLine m.locals
    rw [Line.textOf_append, Line.textOf_append, hlocals, opening]
    apply String.toList_injective
    simp [front, Line.textOf, Line.allChars, Line.chars, Line.blank, List.replicate]
  have hsections : Line.textOf sections =
      String.join (m.sections.map fun s => s.source dialect 4) := by
    rw [Line.textOf_flatMap]
    simp only [Section.source_eq_textOf]
  have hclosing : Line.textOf rear = m.closing dialect := by
    apply String.toList_injective
    simp [rear, closing, Line.textOf, Line.allChars, Line.chars, Line.blank, List.replicate]
  rw [hlines, Line.textOf_append, Line.textOf_append, hopening, hsections, hclosing]

/-- The source of a class, with the text of each section where it stands. -/
theorem ClassDecl.source_eq_join (dialect : Dialect) (c : ClassDecl) :
    c.source dialect = dialect.packageLine c.package ++ c.heading ++ c.propertyText dialect ++
      String.join (c.methods.map fun m => m.opening dialect ++
        String.join (m.sections.map fun s => s.source dialect 4) ++ m.closing dialect) ++
      dialect.blockEnd ++ "\n" := by
  have hmethods : Line.textOf (c.methodLines dialect) =
      String.join (c.methods.map fun m => m.opening dialect ++
        String.join (m.sections.map fun s => s.source dialect 4) ++ m.closing dialect) := by
    rw [methodLines, Line.textOf_flatMap]
    simp only [Method.textOf_lines]
  have hend : Line.textOf [⟨0, Dialect.core.blockEnd⟩] = dialect.blockEnd ++ "\n" := by
    apply String.toList_injective
    simp [Line.textOf, Line.allChars, Line.chars, Dialect.blockEnd]
  rw [source_eq_append, ending, c.methodLines_dialect .core dialect, Line.textOf_append, hmethods,
    hend]
  simp only [String.append_assoc]

/-! ## Sections after any text -/

/-- Writing a section appends its text at the indentation of the emitter and changes nothing
else. -/
theorem Section.emit_eq_append (dialect : Dialect) (s : Section) (e : Emitter) :
    s.emit dialect e = { e with text := e.text ++ s.source dialect e.indent } := by
  rw [emit_eq_write, Emitter.write, source_eq_textOf]

/-- A section whose loop counters have no line break is written after any text and at any
indentation as it is written alone, and with more indentation each of its lines moves to the right.
None of its lines is indented further than the depth of the section asks for. The source of a class
has the texts of the sections of a method one after the other. -/
theorem Section.emit_placed (dialect : Dialect) (s : Section) (h : OneLine s.texts) :
    (∀ e : Emitter, s.emit dialect e = { e with text := e.text ++ s.source dialect e.indent }) ∧
      (∀ indent width : Nat,
        s.source dialect (indent + width) = Text.indented width (s.source dialect indent)) ∧
      (∀ indent : Nat, ∀ line ∈ Text.lines (s.source dialect indent).toList,
        indent ≤ Text.margin line ∧ Text.margin line ≤ indent + 2 * s.depth) ∧
      (∀ indent : UInt64, indent.toNat + 2 * s.depth ≤ storageLimit →
        s.sourceAt dialect indent = .ok (s.source dialect indent.toNat)) ∧
      ∀ c : ClassDecl, c.source dialect =
        dialect.packageLine c.package ++ c.heading ++ c.propertyText dialect ++
          String.join (c.methods.map fun m => m.opening dialect ++
            String.join (m.sections.map fun s => s.source dialect 4) ++ m.closing dialect) ++
          dialect.blockEnd ++ "\n" := by
  have htidy (indent : Nat) := s.tidy_lines dialect h indent
  refine ⟨s.emit_eq_append dialect, fun indent width => ?_, fun indent line hline => ?_,
    fun indent hindent => ?_, ClassDecl.source_eq_join dialect⟩
  · rw [source_eq_textOf, source_eq_textOf, Line.indented_textOf width (htidy indent),
      s.lines_add dialect]
  · rw [source_eq_textOf, Line.lines_textOf (htidy indent)] at hline
    obtain ⟨l, hl, rfl⟩ := List.mem_map.mp hline
    have hmargin : Text.margin l.chars = l.indent :=
      congrArg Line.indent (Line.ofChars_chars (htidy indent l hl).noMargin)
    rw [hmargin]
    exact s.indent_bounds dialect indent l hl
  · rw [sourceAt, reserve, if_pos (by omega)]
    rfl

/-- A loop whose counter begins with a space, with a chain that has no conditional branch. -/
def Section.spaced : Section := .loop " i" 0 2 (.branch (.otherwise (.leaf .throw)))

theorem Section.emit_placed_spaced :
    OneLine spaced.texts ∧
      spaced.emit .extended ⟨"return 1\n", 1⟩ =
        ⟨"return 1\n" ++ spaced.source .extended 1, 1⟩ ∧
      spaced.source .extended (1 + 2) = Text.indented 2 (spaced.source .extended 1) ∧
      spaced.sourceAt .extended 1 = .ok (spaced.source .extended 1) ∧
      spaced.source .extended 1 =
        " for(  i in 0..2 ) \x7b\n   \x7d else \x7b\n     throw \"Error\"\n   \x7d\n \x7d\n" := by
  have htexts : OneLine spaced.texts := by decide
  obtain ⟨hemit, hshift, -, hfits, -⟩ := emit_placed .extended spaced htexts
  refine ⟨htexts, hemit ⟨"return 1\n", 1⟩, hshift 1 2, hfits 1 (by decide), ?_⟩
  decide +kernel

end ClassMill
