import ClassMill.Proofs.Outline.Passage

/-!
# The outline of a written class

Reading the lines of a class finds its head, its properties in order and one method for each of
its own. The statements of a method end in its result, and its greatest number of open braces
is two more than the depth of its sections.
-/

namespace ClassMill

namespace Outline

/-! ## Methods -/

theorem passes_locals (dialect : Dialect) {items : List Local} (h : ∀ l ∈ items, l.Regular)
    (indent : Nat) {depth : Nat} (hdepth : 2 ≤ depth) :
    Passes (items.map fun l => ⟨indent, dialect.localLine l⟩) depth depth depth := by
  induction items with
  | nil => exact passes_nil (Nat.le_refl depth)
  | cons l items ih =>
    have hrest := ih fun k hk => h k (List.mem_cons_of_mem l hk)
    exact hrest.cons (bodyLine_localLine dialect (h l (by simp))) rfl hdepth hdepth
      (Nat.le_refl depth)

theorem passes_sections (dialect : Dialect) {items : List Section} (h : ∀ s ∈ items, s.Regular)
    (indent : Nat) {depth : Nat} (hdepth : 2 ≤ depth) :
    Passes (items.flatMap fun s => s.lines dialect indent) depth depth
      (depth + Section.greatestDepth items) := by
  induction items with
  | nil => exact passes_nil (Nat.le_refl depth)
  | cons s items ih =>
    have hrest := ih fun t ht => h t (List.mem_cons_of_mem s ht)
    have hall := ((h s (by simp)).passes dialect indent depth hdepth).append (by omega) hrest
    have hgreatest : Section.greatestDepth (s :: items) =
        max s.depth (Section.greatestDepth items) := rfl
    have hmax : max (depth + s.depth) (depth + Section.greatestDepth items) =
        depth + max s.depth (Section.greatestDepth items) := by omega
    rw [List.flatMap_cons, hgreatest, ← hmax]
    exact hall

/-- Reading is between the members of a class. -/
structure Reading.Between (r : Reading) : Prop where
  depth_eq : r.depth = 1
  deepest : r.deepest = 0
  current : r.current = none

/-- Adds properties to what was found. -/
def Reading.addProperties (ps : List (List Char)) (r : Reading) : Reading :=
  { r with found := { r.found with properties := r.found.properties ++ ps } }

/-- Adds methods to what was found. -/
def Reading.addMethods (ms : List MethodOutline) (r : Reading) : Reading :=
  { r with found := { r.found with methods := r.found.methods ++ ms } }

theorem Reading.addProperties_addProperties (ps qs : List (List Char)) (r : Reading) :
    (r.addProperties ps).addProperties qs = r.addProperties (ps ++ qs) := by
  simp [addProperties]

theorem Reading.addMethods_addMethods (ms ns : List MethodOutline) (r : Reading) :
    (r.addMethods ms).addMethods ns = r.addMethods (ms ++ ns) := by
  simp [addMethods]

theorem Reading.Between.addProperties {r : Reading} (h : r.Between) (ps : List (List Char)) :
    (r.addProperties ps).Between := ⟨h.depth_eq, h.deepest, h.current⟩

theorem Reading.Between.addMethods {r : Reading} (h : r.Between) (ms : List MethodOutline) :
    (r.addMethods ms).Between := ⟨h.depth_eq, h.deepest, h.current⟩

/-- The head of a method leads inside it. -/
theorem step_methodHead (dialect : Dialect) {m : Method} (h : m.Regular) (indent : Nat)
    {r : Reading} (hr : r.Between) :
    r.step (Line.chars ⟨indent, dialect.methodHead m.name⟩) =
      some { r with depth := 2, deepest := 2, current := some [] } := by
  have hhead : (dialect.methodHead m.name).toList.head? = some 'f' := by
    simp [Dialect.methodHead]
  have hclass : ¬ classMark <+: (dialect.methodHead m.name).toList :=
    not_prefix_of_head rfl hhead (by decide)
  have hproperty : ¬ propertyMark <+: (dialect.methodHead m.name).toList :=
    not_prefix_of_head rfl hhead (by decide)
  have hmethod : methodMark <+: (dialect.methodHead m.name).toList := by
    rw [Dialect.methodHead, String.toList_append, String.toList_append, List.append_assoc]
    exact List.prefix_append _ _
  rw [Reading.step_eq 2 (reads_methodHead dialect h.name.plain) (by rw [hr.depth_eq])]
  simp [Reading.note, Reading.goTo, isPrefixOf_eq_false hclass, isPrefixOf_eq_false hproperty,
    List.isPrefixOf_iff_prefix.mpr hmethod, hr.depth_eq, hr.deepest]

/-- The result and the end of a method lead back to the members of the class. -/
theorem run_methodEnd (dialect : Dialect) (indent : Nat) (value : UInt64) {r : Reading}
    (body : List (List Char)) (hbody : r.current = some body) (hdepth : r.depth = 2)
    (hdeepest : 2 ≤ r.deepest) :
    r.run [Line.chars ⟨indent + Emitter.step, dialect.returnLine value⟩,
        Line.chars ⟨indent, dialect.blockEnd⟩] =
      some {
        found := {
          r.found with
          methods := r.found.methods ++
            [⟨body ++ [(dialect.returnLine value).toList], r.deepest⟩] }
        depth := 1
        deepest := 0
        current := none } := by
  have hhead : (dialect.returnLine value).toList.head? = some 'r' := by
    simp [Dialect.returnLine]
  have hreturn : ¬ classMark <+: (dialect.returnLine value).toList :=
    not_prefix_of_head rfl hhead (by decide)
  have hkept : isStatement (dialect.returnLine value).toList = true := by
    cases hchars : (dialect.returnLine value).toList with
    | nil => simp [hchars] at hhead
    | cons c rest =>
      obtain rfl : c = 'r' := by simpa [hchars] using hhead
      simp [isStatement]
  have hdropped : isStatement dialect.blockEnd.toList = false := by
    cases dialect <;> decide
  have hend := (bodyLine_blockEnd dialect).notHead
  rw [Reading.run, Reading.step_eq 2 (reads_returnLine dialect value) (by omega),
    Reading.note_inside hbody (by omega) hreturn, Option.bind_some, Reading.goTo]
  have hinside : ¬ 2 = 1 := by decide
  simp only [hkept, if_true, if_neg hinside]
  rw [Reading.run, Reading.step_eq 1 (reads_blockEnd dialect) rfl,
    Reading.note_inside rfl (Nat.le_refl 2) hend]
  simp [Reading.goTo, hdropped, Reading.run, Nat.max_eq_left hdeepest,
    Nat.max_eq_left (Nat.le_trans (by decide) hdeepest : 1 ≤ r.deepest)]

end Outline

open Outline

/-- The outline of a method ends in its result and knows the depth of its sections. -/
structure Method.Outlined (dialect : Dialect) (m : Method) (o : MethodOutline) : Prop where
  deepest : o.deepest = 2 + Section.greatestDepth m.sections
  statements : ∃ before, NoReturn before ∧
    o.statements = before ++ [(dialect.returnLine m.result).toList]

/-- Reading the lines of a regular method adds its outline. -/
theorem Method.Regular.run_lines (dialect : Dialect) {m : Method} (h : m.Regular) (indent : Nat)
    {r : Reading} (hr : r.Between) :
    ∃ o, m.Outlined dialect o ∧
      r.run ((m.lines dialect indent).map Line.chars) = some (r.addMethods [o]) := by
  have hblank : Passes [Line.blank] 2 2 2 :=
    passes_line bodyLine_blank rfl (Nat.le_refl 2) (Nat.le_refl 2)
  have hlocals := passes_locals dialect h.locals (indent + Emitter.step) (Nat.le_refl 2)
  have hsections := passes_sections dialect h.sections (indent + Emitter.step) (Nat.le_refl 2)
  have hbody := hlocals.append (Nat.le_refl 2)
    (hblank.append (Nat.le_refl 2) (hsections.append (by omega) hblank))
  have hinside : Reading.Inside 2
      { r with depth := 2, deepest := 2, current := some [] } := ⟨rfl, rfl, Nat.le_refl 2⟩
  obtain ⟨statements, hreturn, hrun⟩ := hbody _ hinside
  have hsplit : m.lines dialect indent = ⟨indent, dialect.methodHead m.name⟩ ::
      ((m.locals.map (fun l => ⟨indent + Emitter.step, dialect.localLine l⟩) ++
        ([Line.blank] ++ (m.sections.flatMap (fun s => s.lines dialect (indent + Emitter.step)) ++
          [Line.blank]))) ++
        [⟨indent + Emitter.step, dialect.returnLine m.result⟩, ⟨indent, dialect.blockEnd⟩]) := by
    simp [Method.lines]
  refine ⟨⟨statements ++ [(dialect.returnLine m.result).toList],
    2 + Section.greatestDepth m.sections⟩, ⟨rfl, statements, hreturn, rfl⟩, ?_⟩
  rw [hsplit, List.map_cons, Reading.run, step_methodHead dialect h indent hr, Option.bind_some,
    List.map_append, Reading.run_append, hrun, Option.bind_some, List.map_cons, List.map_cons,
    List.map_nil, run_methodEnd dialect indent m.result statements (by rfl) rfl
      (Nat.le_max_left _ _)]
  have hdeepest : max 2 (max 2 (max 2 (max (2 + Section.greatestDepth m.sections) 2))) =
      2 + Section.greatestDepth m.sections := by omega
  simp only [Reading.advance, Reading.addMethods, hdeepest, hr.depth_eq, hr.deepest, hr.current]

/-! ## Classes -/

namespace Outline

/-- A blank line between the members of a class adds nothing. -/
theorem step_blank {r : Reading} (hr : r.current = none) :
    r.step Line.blank.chars = some r := by
  have hmarks : classMark.isPrefixOf [] = false ∧ propertyMark.isPrefixOf [] = false ∧
      methodMark.isPrefixOf [] = false := by decide
  have htext : Line.blank.content.toList = [] := rfl
  rw [Reading.step_eq r.depth reads_blank rfl, htext]
  simp only [Reading.note, Reading.goTo, hmarks, hr, and_false, Bool.false_eq_true, if_false,
    Option.map_none]
  simp [← hr]

theorem step_propertyLine (dialect : Dialect) {p : Property}
    (h : Text.Plain (dialect.defaultLiteral p.type p.default)) (indent : Nat) {r : Reading}
    (hr : r.Between) :
    r.step (Line.chars ⟨indent, dialect.propertyLine p⟩) =
      some (r.addProperties [(dialect.propertyLine p).toList]) := by
  have hhead : (dialect.propertyLine p).toList.head? = some 'v' := by
    simp [Dialect.propertyLine]
  have hclass : ¬ classMark <+: (dialect.propertyLine p).toList :=
    not_prefix_of_head rfl hhead (by decide)
  have hmethod : ¬ methodMark <+: (dialect.propertyLine p).toList :=
    not_prefix_of_head rfl hhead (by decide)
  have hproperty : propertyMark <+: (dialect.propertyLine p).toList := by
    have hmark : propertyMark = "var ".toList ++ "_property".toList := rfl
    simp only [Dialect.propertyLine, Property.fieldName, String.toList_append, List.append_assoc,
      hmark]
    rw [← List.append_assoc]
    exact List.prefix_append _ _
  rw [Reading.step_eq 1 (reads_propertyLine dialect h) (by rw [hr.depth_eq])]
  simp [Reading.note, Reading.goTo, isPrefixOf_eq_false hclass, isPrefixOf_eq_false hmethod,
    List.isPrefixOf_iff_prefix.mpr hproperty, hr.depth_eq, hr.current, Reading.addProperties]

/-- Reading the properties of a class adds their lines. -/
theorem run_properties (dialect : Dialect) {items : List Property}
    (h : ∀ p ∈ items, Text.Plain (dialect.defaultLiteral p.type p.default)) (indent : Nat)
    {r : Reading} (hr : r.Between) :
    r.run ((items.map fun p => (⟨indent, dialect.propertyLine p⟩ : Line)).map Line.chars) =
      some (r.addProperties (items.map fun p => (dialect.propertyLine p).toList)) := by
  induction items generalizing r with
  | nil => simp [Reading.run, Reading.addProperties]
  | cons p items ih =>
    have hrest := ih (fun q hq => h q (List.mem_cons_of_mem p hq))
      (hr.addProperties [(dialect.propertyLine p).toList])
    rw [List.map_cons, List.map_cons, Reading.run,
      step_propertyLine dialect (h p (by simp)) indent hr, Option.bind_some, hrest,
      Reading.addProperties_addProperties]
    rfl

/-- Reading the methods of a class adds an outline for each of them. -/
theorem run_methods (dialect : Dialect) {items : List Method} (h : ∀ m ∈ items, m.Regular)
    (indent : Nat) {r : Reading} (hr : r.Between) :
    ∃ os, List.Forall₂ (Method.Outlined dialect) items os ∧
      r.run ((items.flatMap fun m => Line.blank :: m.lines dialect indent).map Line.chars) =
        some (r.addMethods os) := by
  induction items generalizing r with
  | nil => exact ⟨[], .nil, by simp [Reading.run, Reading.addMethods]⟩
  | cons m items ih =>
    obtain ⟨o, ho, hmethod⟩ := (h m (by simp)).run_lines dialect indent hr
    obtain ⟨os, hos, hrest⟩ :=
      ih (fun n hn => h n (List.mem_cons_of_mem m hn)) (hr.addMethods [o])
    refine ⟨o :: os, .cons ho hos, ?_⟩
    rw [List.flatMap_cons, List.map_append, Reading.run_append, List.map_cons, Reading.run,
      step_blank hr.current, Option.bind_some, hmethod, Option.bind_some, hrest,
      Reading.addMethods_addMethods]
    rfl

/-- The first line of a class is passed over, even if blanks end the name of the package. -/
theorem step_packageLine (dialect : Dialect) {package : String} (h : Text.Plain package)
    (indent : Nat) :
    Reading.start.step (Line.chars ⟨indent, dialect.packageLine package⟩) =
      some Reading.start := by
  have hplain := dialect.plain_packageLine h
  obtain ⟨rest, hchars⟩ : ∃ rest, (dialect.packageLine package).toList = 'p' :: 'a' :: rest := by
    cases dialect <;> exact ⟨_, by simp [Dialect.packageLine]; rfl⟩
  have hmark : ¬ classMark <+: Text.trim (dialect.packageLine package).toList := by
    intro hprefix
    have hall := hprefix.trans (hchars ▸ Text.trim_prefix (by decide))
    rw [hchars] at hall
    have hmark : classMark = 'p' :: 'u' :: classMark.drop 2 := rfl
    rw [hmark, List.cons_prefix_cons, List.cons_prefix_cons] at hall
    exact absurd hall.2.1 (by decide)
  rw [Reading.step, Line.trim_chars, Line.opened_chars, Line.closed_chars, opened_of_plain hplain,
    closed_of_plain hplain]
  simp [Reading.note, Reading.goTo, Reading.start, isPrefixOf_eq_false hmark]

/-- The head of a class leads to its members. -/
theorem step_classHead (dialect : Dialect) {name : String} (h : Name.IsWord name)
    (indent : Nat) :
    Reading.start.step (Line.chars ⟨indent, dialect.classHead name⟩) =
      some ⟨⟨[(dialect.classHead name).toList], [], []⟩, 1, 0, none⟩ := by
  have hclass : classMark <+: (dialect.classHead name).toList := by
    rw [Dialect.classHead, String.toList_append, String.toList_append, List.append_assoc]
    exact List.prefix_append _ _
  rw [Reading.step_eq 1 (reads_classHead dialect h.plain) rfl]
  simp [Reading.note, Reading.goTo, Reading.start, List.isPrefixOf_iff_prefix.mpr hclass]

/-- The end of a class closes the last block. -/
theorem step_classEnd (dialect : Dialect) (indent : Nat) {r : Reading} (hr : r.Between) :
    r.step (Line.chars ⟨indent, dialect.blockEnd⟩) = some { r with depth := 0 } := by
  have hmarks : classMark.isPrefixOf dialect.blockEnd.toList = false ∧
      propertyMark.isPrefixOf dialect.blockEnd.toList = false ∧
      methodMark.isPrefixOf dialect.blockEnd.toList = false := by
    cases dialect <;> decide
  rw [Reading.step_eq 0 (reads_blockEnd dialect) (by rw [hr.depth_eq])]
  simp [Reading.note, Reading.goTo, hmarks, hr.current]

end Outline

/-- The source of a regular class whose package and text defaults have no braces has an outline:
its head, its properties and the outlines of its methods, in order. -/
theorem ClassDecl.Regular.read_source {dialect : Dialect} {c : ClassDecl}
    (h : c.Regular dialect) (hpackage : Text.Plain c.package)
    (hdefaults : ∀ p ∈ c.properties, Text.Plain (dialect.defaultLiteral p.type p.default)) :
    ∃ methods, List.Forall₂ (Method.Outlined dialect) c.methods methods ∧
      Outline.read (c.source dialect) = some {
        classHeads := [(dialect.classHead c.name).toList]
        properties := c.properties.map fun p => (dialect.propertyLine p).toList
        methods } := by
  let inside : Reading := ⟨⟨[(dialect.classHead c.name).toList], [], []⟩, 1, 0, none⟩
  have hinside : inside.Between := ⟨rfl, rfl, rfl⟩
  let ps := c.properties.map fun p => (dialect.propertyLine p).toList
  have hproperties := run_properties dialect hdefaults Emitter.step hinside
  obtain ⟨methods, houtlined, hmethods⟩ :=
    run_methods dialect h.methods Emitter.step (hinside.addProperties ps)
  have hend := step_classEnd dialect 0 ((hinside.addProperties ps).addMethods methods)
  have hlines : Text.lines (c.source dialect).toList = (c.lines dialect).map Line.chars := by
    rw [c.source_eq_textOf, Line.lines_textOf h.tidy_lines]
  have hrun : Reading.start.run ((c.lines dialect).map Line.chars) =
      some { (inside.addProperties ps).addMethods methods with depth := 0 } := by
    rw [ClassDecl.lines, List.map_cons, List.map_cons, List.map_cons, Reading.run,
      step_packageLine dialect hpackage, Option.bind_some, Reading.run,
      step_blank (r := Reading.start) rfl, Option.bind_some, Reading.run,
      step_classHead dialect h.name, Option.bind_some, List.map_append, Reading.run_append,
      propertyLines, hproperties, Option.bind_some, List.map_append, Reading.run_append,
      methodLines, hmethods, Option.bind_some, List.map_cons, List.map_nil, Reading.run, hend]
    rfl
  refine ⟨methods, houtlined, ?_⟩
  rw [Outline.read, hlines, hrun]
  rfl

end ClassMill
