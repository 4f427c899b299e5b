import ClassMill.Proofs.Outline.Braces
import Mathlib.Tactic.Common

/-!
# Indentation and braces

The emitter counts how far lines are indented, while braces are part of the lines. The two are in
step: a line stands two spaces to the right for each brace that is open before it, and a line that
begins with a closing brace stands with the block that it closes. Lines are put together from parts
that lead from one number of open braces to another, since the lines between the branches of a
chain close one block and open the next.
-/

namespace ClassMill

open Outline Text

mutual

/-- Every if chain has a conditional branch. -/
def Section.Headed : Section → Prop
  | .leaf _ => True
  | .branch chain => 0 < chain.conditionalCount ∧ chain.Headed
  | .loop _ _ _ body => body.Headed

/-- Every if chain in the bodies of the branches has a conditional branch. -/
def Chain.Headed : Chain → Prop
  | .empty => True
  | .otherwise body => body.Headed
  | .conditional _ body rest => body.Headed ∧ rest.Headed

end

/-- Every if chain of the class has a conditional branch. -/
def ClassDecl.Headed (c : ClassDecl) : Prop := ∀ m ∈ c.methods, ∀ s ∈ m.sections, s.Headed

namespace Text

/-- The number of braces that lines open, less the number that they close. -/
def netBraces : List (List Char) → Int
  | [] => 0
  | line :: ls => opened line - closed line + netBraces ls

/-- The number of spaces at the beginning of a line. -/
def margin (line : List Char) : Nat := (line.takeWhile (· == ' ')).length

/-- One if the first character of a line that is no space is a closing brace, zero otherwise. -/
def closesFirst (line : List Char) : Int :=
  if (line.dropWhile (· == ' ')).head? = some '\x7d' then 1 else 0

/-- Lines are indented by two spaces for each open brace: the number of braces that are open before
a line, without the one that the line begins by closing, is never negative and gives the margin of
the line, and no brace is open in the end. -/
structure Aligned (base : Nat) (ls : List (List Char)) : Prop where
  level : ∀ before line after, ls = before ++ line :: after →
    0 ≤ netBraces before - closesFirst line
  margin_eq : ∀ before line after, ls = before ++ line :: after → line ≠ [] →
    (margin line : Int) = base + 2 * (netBraces before - closesFirst line)
  settled : netBraces ls = 0

theorem netBraces_append (ls ms : List (List Char)) :
    netBraces (ls ++ ms) = netBraces ls + netBraces ms := by
  induction ls with
  | nil => simp [netBraces]
  | cons line ls ih => rw [List.cons_append, netBraces, netBraces, ih, Int.add_assoc]

/-- A line fits where a number of braces are open, not fewer than `low`. -/
structure Fits (base low depth : Int) (line : List Char) : Prop where
  low_le : low ≤ depth
  level : closesFirst line ≤ depth
  margin_eq : line ≠ [] → (margin line : Int) = base + 2 * (depth - closesFirst line)

/-- Lines lead from one number of open braces to another, and each of them fits where it is. -/
structure Leads (base low depth next : Int) (ls : List (List Char)) : Prop where
  fits : ∀ before line after, ls = before ++ line :: after →
    Fits base low (depth + netBraces before) line
  next_eq : depth + netBraces ls = next

namespace Leads

variable {base low depth mid next : Int} {ls ms : List (List Char)} {line : List Char}

theorem nil (base low depth : Int) : Leads base low depth depth [] where
  fits before line after h := by simp at h
  next_eq := by simp [netBraces]

theorem single (h : Fits base low depth line) (hnext : depth + opened line - closed line = next) :
    Leads base low depth next [line] where
  fits before other after hsplit := by
    cases before with
    | nil =>
      obtain ⟨rfl, -⟩ := List.cons_eq_cons.mp hsplit
      simpa [netBraces] using h
    | cons first before => simp at hsplit
  next_eq := by
    rw [netBraces, netBraces, ← hnext]
    omega

/-- Lines one after the other lead where the later ones lead. -/
theorem append (hls : Leads base low depth mid ls) (hms : Leads base low mid next ms) :
    Leads base low depth next (ls ++ ms) where
  fits before line after hsplit := by
    obtain ⟨inner, rfl, hinner⟩ | ⟨inner, hls', hinner⟩ := List.append_eq_append_iff.mp hsplit
    · have hfits := hms.fits inner line after hinner
      rwa [netBraces_append, ← Int.add_assoc, hls.next_eq]
    · cases inner with
      | nil =>
        have hfits := hms.fits [] line after hinner.symm
        rw [List.append_nil] at hls'
        rwa [← hls', hls.next_eq, ← Int.add_zero mid]
      | cons first inner =>
        obtain ⟨rfl, -⟩ := List.cons_eq_cons.mp hinner
        exact hls.fits before line inner hls'
  next_eq := by
    rw [netBraces_append, ← Int.add_assoc, hls.next_eq, hms.next_eq]

theorem cons (hline : Leads base low depth mid [line]) (hls : Leads base low mid next ls) :
    Leads base low depth next (line :: ls) :=
  hline.append hls

theorem flatMap {α : Type} {items : List α} {lines : α → List (List Char)}
    (h : ∀ a ∈ items, Leads base low depth depth (lines a)) :
    Leads base low depth depth (items.flatMap lines) := by
  induction items with
  | nil => exact nil base low depth
  | cons item items ih =>
    obtain ⟨hitem, hitems⟩ := List.forall_mem_cons.mp h
    exact hitem.append (ih hitems)

theorem mono {less : Int} (h : Leads base low depth next ls) (hless : less ≤ low) :
    Leads base less depth next ls where
  fits before line after hsplit := by
    obtain ⟨hlow, hlevel, hmargin⟩ := h.fits before line after hsplit
    exact ⟨Int.le_trans hless hlow, hlevel, hmargin⟩
  next_eq := h.next_eq

/-- Three lines of which the last one opens the only brace, and then lines where it stays open: no
brace is open before a line exactly if it is one of the three. -/
theorem netBraces_eq_zero_iff {first second third : List Char} {before after : List (List Char)}
    (hls : Leads base 1 1 next ls) (hfirst : netBraces [first] = 0)
    (hsecond : netBraces [second] = 0) (hthird : netBraces [third] = 1)
    (hsplit : first :: second :: third :: ls = before ++ line :: after) :
    netBraces before = 0 ↔ before.length < 3 := by
  have hcons (l : List Char) (rest : List (List Char)) :
      netBraces (l :: rest) = netBraces [l] + netBraces rest := netBraces_append [l] rest
  obtain _ | ⟨l, _ | ⟨m, _ | ⟨n, before⟩⟩⟩ := before
  · simp [netBraces]
  · simp only [List.cons_append, List.cons.injEq] at hsplit
    obtain ⟨rfl, -⟩ := hsplit
    simp [hfirst]
  · simp only [List.cons_append, List.cons.injEq] at hsplit
    obtain ⟨rfl, rfl, -⟩ := hsplit
    rw [hcons first, hfirst, hsecond]
    simp
  · simp only [List.cons_append, List.cons.injEq] at hsplit
    obtain ⟨rfl, rfl, rfl, hinner⟩ := hsplit
    have hopen := (hls.fits before line after hinner).low_le
    rw [hcons first, hcons second, hcons third, hfirst, hsecond, hthird, List.length_cons,
      List.length_cons, List.length_cons]
    omega

/-- Lines that lead from no open brace to none are aligned. -/
theorem aligned {base : Nat} (h : Leads base low 0 0 ls) : Aligned base ls where
  level before line after hsplit := by
    have hlevel := (h.fits before line after hsplit).level
    omega
  margin_eq before line after hsplit hne := by
    have hmargin := (h.fits before line after hsplit).margin_eq hne
    omega
  settled := by
    have hnext := h.next_eq
    omega

end Leads

end Text

/-! ## Single lines -/

namespace Line

/-- The content of a line opens and closes a number of braces; it closes one only if it begins by
that, and it does not begin with a space. -/
structure Turns (content : String) (opens closes : Nat) : Prop where
  opened_eq : opened content.toList = opens
  closed_eq : closed content.toList = closes
  first : ∃ c ∈ content.toList.head?, c ≠ ' ' ∧ closes = if c = '\x7d' then 1 else 0

/-- A line fits where it is indented by two spaces for each open brace that it does not close. -/
theorem Turns.leads {l : Line} {opens closes : Nat} (h : Turns l.content opens closes)
    {base low depth next : Int} (hindent : (l.indent : Int) = base + 2 * (depth - closes))
    (hlow : low ≤ depth) (hlevel : closes ≤ depth) (hnext : depth + opens - closes = next) :
    Leads base low depth next [l.chars] := by
  obtain ⟨c, hc, hspace, hcloses⟩ := h.first
  have hread : ofChars l.chars = l := ofChars_chars fun d hd => by
    rwa [Option.mem_unique hd hc]
  have hmargin : margin l.chars = l.indent := congrArg Line.indent hread
  have hcontent : l.chars.dropWhile (· == ' ') = l.content.toList := by
    rw [← String.toList_ofList (l := l.chars.dropWhile (· == ' '))]
    exact congrArg (fun m => m.content.toList) hread
  have hfirst : closesFirst l.chars = closes := by
    rw [closesFirst, hcontent, Option.mem_def.mp hc, hcloses]
    by_cases hbrace : c = '\x7d'
    · rw [hbrace]
      rfl
    · rw [if_neg hbrace, if_neg (by simpa using hbrace)]
      rfl
  apply Leads.single
  · refine ⟨hlow, ?_, fun _ => ?_⟩
    · rwa [hfirst]
    · rw [hfirst, hmargin, hindent]
  · rw [l.opened_chars, l.closed_chars, h.opened_eq, h.closed_eq, hnext]

theorem leads_blank {base low depth : Int} (hlow : low ≤ depth) (hlevel : 0 ≤ depth) :
    Leads base low depth depth [blank.chars] := by
  have hchars : blank.chars = [] := rfl
  rw [hchars]
  apply Leads.single
  · exact ⟨hlow, hlevel, fun hne => absurd rfl hne⟩
  · exact Int.add_zero _ ▸ Int.sub_zero _

/-- A line that an outline reads, by its first character. -/
theorem turns_of_reads {content : String} {opens closes : Nat} (c : Char)
    (h : Reads content opens closes) (hc : content.toList.head? = some c) (hspace : c ≠ ' ')
    (hcloses : closes = if c = '\x7d' then 1 else 0) : Turns content opens closes :=
  ⟨h.opened_eq, h.closed_eq, c, hc, hspace, hcloses⟩

variable (dialect : Dialect)

theorem turns_packageLine {package : String} (h : Plain package) :
    Turns (dialect.packageLine package) 0 0 := by
  have hplain := dialect.plain_packageLine h
  refine ⟨opened_of_plain hplain, closed_of_plain hplain, 'p', ?_, by decide, rfl⟩
  cases dialect <;> simp [Dialect.packageLine]

theorem turns_classHead {name : String} (h : Plain name) : Turns (dialect.classHead name) 1 0 :=
  turns_of_reads 'p' (reads_classHead dialect h) (by simp [Dialect.classHead]) (by decide) rfl

theorem turns_propertyLine {p : Property} (h : ∀ text ∈ p.default.texts, Plain text) :
    Turns (dialect.propertyLine p) 0 0 :=
  turns_of_reads 'v' (reads_propertyLine dialect (dialect.plain_defaultLiteral p.type h))
    (by simp [Dialect.propertyLine]) (by decide) rfl

theorem turns_methodHead {name : String} (h : Plain name) : Turns (dialect.methodHead name) 1 0 :=
  turns_of_reads 'f' (reads_methodHead dialect h) (by simp [Dialect.methodHead]) (by decide) rfl

theorem turns_localLine {l : Local} (h : ∀ text ∈ l.texts, Plain text) :
    Turns (dialect.localLine l) 0 0 := by
  obtain ⟨hname, hinitial⟩ := List.forall_mem_cons.mp h
  exact turns_of_reads 'v' (reads_localLine dialect hname (Initializer.plain_text hinitial))
    (by simp [Dialect.localLine]) (by decide) rfl

theorem turns_leafLine (statement : Leaf) : Turns (dialect.leafLine statement) 0 0 := by
  have hreads := reads_leafLine dialect statement
  cases statement with
  | print => exact turns_of_reads 'p' hreads (by simp [Dialect.leafLine]) (by decide) rfl
  | throw => exact turns_of_reads 't' hreads (by simp [Dialect.leafLine]) (by decide) rfl

theorem turns_ifHead (c : Condition) : Turns (dialect.ifHead c) 1 0 :=
  turns_of_reads 'i' (reads_ifHead dialect c) (by simp [Dialect.ifHead]) (by decide) rfl

theorem turns_elseIfHead (c : Condition) : Turns (dialect.elseIfHead c) 1 1 :=
  turns_of_reads '\x7d' (reads_elseIfHead dialect c) (by simp [Dialect.elseIfHead]) (by decide) rfl

theorem turns_elseHead : Turns dialect.elseHead 1 1 :=
  turns_of_reads '\x7d' (reads_elseHead dialect) (by simp [Dialect.elseHead]) (by decide) rfl

theorem turns_loopHead {counter : String} (h : Plain counter) (start stop : UInt64) :
    Turns (dialect.loopHead counter start stop) 1 0 :=
  turns_of_reads 'f' (reads_loopHead dialect h start stop) (by simp [Dialect.loopHead]) (by decide)
    rfl

theorem turns_blockEnd : Turns dialect.blockEnd 0 1 :=
  turns_of_reads '\x7d' (reads_blockEnd dialect) (by simp [Dialect.blockEnd]) (by decide) rfl

theorem turns_returnLine (value : UInt64) : Turns (dialect.returnLine value) 0 0 :=
  turns_of_reads 'r' (reads_returnLine dialect value) (by simp [Dialect.returnLine]) (by decide) rfl

/-- Lines inside a block are indented by one step more. -/
theorem indent_step {indent : Nat} {base depth : Int} (h : (indent : Int) = base + 2 * depth) :
    ((indent + Emitter.step : Nat) : Int) = base + 2 * (depth + 1) := by
  have hstep : Emitter.step = 2 := rfl
  omega

/-- The end of a block leads out of it. -/
theorem leads_blockEnd {indent : Nat} {base depth : Int} (hdepth : 0 ≤ depth)
    (hindent : (indent : Int) = base + 2 * depth) :
    Leads base depth (depth + 1) depth [Line.chars ⟨indent, dialect.blockEnd⟩] := by
  apply (turns_blockEnd dialect).leads <;> push_cast <;> omega

end Line

/-! ## Sections, methods and classes -/

mutual

/-- The lines of a section lead back to where they began, and no line of it stands outside. -/
theorem Section.leads_lines (dialect : Dialect) : ∀ {s : Section}, s.Headed →
    (∀ text ∈ s.texts, Plain text) → ∀ (indent : Nat) {base depth : Int}, 0 ≤ depth →
    (indent : Int) = base + 2 * depth →
    Leads base depth depth depth ((s.lines dialect indent).map Line.chars)
  | .leaf statement, _, _, indent, base, depth, hdepth, hindent => by
    rw [Section.lines]
    apply (Line.turns_leafLine dialect statement).leads <;> push_cast <;> omega
  | .branch chain, hheaded, hplain, indent, base, depth, hdepth, hindent => by
    rw [Section.Headed] at hheaded
    rw [Section.texts] at hplain
    rw [Section.lines, List.map_append]
    have hchain := Chain.leads_lines dialect hheaded.2 hplain true (fun _ => hheaded.1) indent
      hdepth hindent
    exact hchain.append (Line.leads_blockEnd dialect hdepth hindent)
  | .loop counter start stop body, hheaded, hplain, indent, base, depth, hdepth, hindent => by
    rw [Section.Headed] at hheaded
    rw [Section.texts, List.forall_mem_cons] at hplain
    rw [Section.lines, List.map_cons, List.map_append]
    have hhead : Leads base depth depth (depth + 1)
        [Line.chars ⟨indent, dialect.loopHead counter start stop⟩] := by
      apply (Line.turns_loopHead dialect hplain.1 start stop).leads <;> push_cast <;> omega
    have hbody := Section.leads_lines dialect hheaded hplain.2 (indent + Emitter.step)
      (by omega) (Line.indent_step hindent)
    exact hhead.cons ((hbody.mono (by omega)).append (Line.leads_blockEnd dialect hdepth hindent))

/-- The lines of the branches of a chain leave one block open; the first branch opens it. -/
theorem Chain.leads_lines (dialect : Dialect) : ∀ {c : Chain}, c.Headed →
    (∀ text ∈ c.texts, Plain text) → ∀ first : Bool, (first = true → 0 < c.conditionalCount) →
    ∀ (indent : Nat) {base depth : Int}, 0 ≤ depth → (indent : Int) = base + 2 * depth →
    Leads base depth (if first then depth else depth + 1) (depth + 1)
      ((c.lines dialect first indent).map Line.chars)
  | .empty, _, _, first, hfirst, indent, base, depth, _, _ => by
    cases first with
    | true => simp [Chain.conditionalCount] at hfirst
    | false =>
      rw [Chain.lines]
      exact .nil base depth (depth + 1)
  | .otherwise body, hheaded, hplain, first, hfirst, indent, base, depth, hdepth, hindent => by
    cases first with
    | true => simp [Chain.conditionalCount] at hfirst
    | false =>
      rw [Chain.Headed] at hheaded
      rw [Chain.texts] at hplain
      rw [Chain.lines, List.map_cons, if_neg Bool.false_ne_true]
      have hhead : Leads base depth (depth + 1) (depth + 1)
          [Line.chars ⟨indent, dialect.elseHead⟩] := by
        apply (Line.turns_elseHead dialect).leads <;> push_cast <;> omega
      have hbody := Section.leads_lines dialect hheaded hplain (indent + Emitter.step)
        (by omega) (Line.indent_step hindent)
      exact hhead.cons (hbody.mono (by omega))
  | .conditional condition body rest, hheaded, hplain, first, _, indent, base, depth, hdepth,
      hindent => by
    rw [Chain.Headed] at hheaded
    rw [Chain.texts, List.forall_mem_append] at hplain
    rw [Chain.lines, List.map_cons, List.map_append]
    have hbody := Section.leads_lines dialect hheaded.1 hplain.1 (indent + Emitter.step)
      (by omega) (Line.indent_step hindent)
    have hrest := Chain.leads_lines dialect hheaded.2 hplain.2 false (by simp) indent hdepth hindent
    rw [if_neg Bool.false_ne_true] at hrest
    have hinner := (hbody.mono (by omega)).append hrest
    cases first with
    | true =>
      have hhead : Leads base depth depth (depth + 1)
          [Line.chars ⟨indent, dialect.ifHead condition⟩] := by
        apply (Line.turns_ifHead dialect condition).leads <;> push_cast <;> omega
      exact hhead.cons hinner
    | false =>
      have hhead : Leads base depth (depth + 1) (depth + 1)
          [Line.chars ⟨indent, dialect.elseIfHead condition⟩] := by
        apply (Line.turns_elseIfHead dialect condition).leads <;> push_cast <;> omega
      exact hhead.cons hinner

end

theorem Method.leads_lines (dialect : Dialect) {m : Method} (hheaded : ∀ s ∈ m.sections, s.Headed)
    (hplain : ∀ text ∈ m.texts, Plain text) (indent : Nat) {base depth : Int} (hdepth : 0 ≤ depth)
    (hindent : (indent : Int) = base + 2 * depth) :
    Leads base depth depth depth ((m.lines dialect indent).map Line.chars) := by
  simp only [texts, List.forall_mem_cons, List.forall_mem_append, List.forall_mem_flatMap] at hplain
  obtain ⟨hname, hlocals, hsections⟩ := hplain
  have hinner := Line.indent_step hindent
  have hhead : Leads base depth depth (depth + 1)
      [Line.chars ⟨indent, dialect.methodHead m.name⟩] := by
    apply (Line.turns_methodHead dialect hname).leads <;> push_cast <;> omega
  have hdeclared : Leads base (depth + 1) (depth + 1) (depth + 1)
      (m.locals.flatMap fun l => [Line.chars ⟨indent + Emitter.step, dialect.localLine l⟩]) :=
    .flatMap fun l hl => by
      apply (Line.turns_localLine dialect (hlocals l hl)).leads <;> push_cast <;> omega
  have hblank : Leads base (depth + 1) (depth + 1) (depth + 1) [Line.blank.chars] :=
    Line.leads_blank (by omega) (by omega)
  have hbody : Leads base (depth + 1) (depth + 1) (depth + 1)
      (m.sections.flatMap fun s => (s.lines dialect (indent + Emitter.step)).map Line.chars) :=
    .flatMap fun s hs =>
      s.leads_lines dialect (hheaded s hs) (hsections s hs) _ (by omega) hinner
  have hresult : Leads base (depth + 1) (depth + 1) (depth + 1)
      [Line.chars ⟨indent + Emitter.step, dialect.returnLine m.result⟩] := by
    apply (Line.turns_returnLine dialect m.result).leads <;> push_cast <;> omega
  have hinside := hdeclared.append (hblank.cons (hbody.append (hblank.cons hresult)))
  have hall := hhead.cons ((hinside.mono (by omega)).append
    (Line.leads_blockEnd dialect hdepth hindent))
  simpa [Method.lines, List.map_flatMap, List.map_eq_flatMap, List.flatMap_assoc] using hall

namespace ClassDecl

variable (dialect : Dialect) {c : ClassDecl}

/-- The lines of a class from its first member on: they lead from one open brace to none, and no
line of them stands outside of the class. -/
theorem leads_members (hheaded : c.Headed) (hplain : ∀ text ∈ c.texts, Plain text) :
    Leads 0 1 1 0 ((c.propertyLines dialect ++
      (c.methodLines dialect ++ [Line.mk 0 dialect.blockEnd])).map Line.chars) := by
  simp only [texts, List.forall_mem_cons, List.forall_mem_append, List.forall_mem_flatMap] at hplain
  obtain ⟨-, -, hdefaults, hmethods⟩ := hplain
  have hproperties : Leads 0 1 1 1
      (c.properties.flatMap fun p => [Line.chars ⟨Emitter.step, dialect.propertyLine p⟩]) :=
    .flatMap fun p hp => by
      apply (Line.turns_propertyLine dialect (hdefaults p hp)).leads <;> simp [Emitter.step]
  have hblank : Leads 0 1 1 1 [Line.blank.chars] := Line.leads_blank (by omega) (by omega)
  have hmembers : Leads 0 1 1 1 (c.methods.flatMap fun m =>
      Line.blank.chars :: (m.lines dialect Emitter.step).map Line.chars) :=
    .flatMap fun m hm => hblank.cons
      (m.leads_lines dialect (hheaded m hm) (hmethods m hm) _ (by omega) (by simp [Emitter.step]))
  have hend : Leads 0 1 1 0 [Line.chars ⟨0, dialect.blockEnd⟩] := by
    apply (Line.turns_blockEnd dialect).leads <;> simp
  have hall := hproperties.append (hmembers.append hend)
  simpa [propertyLines, methodLines, List.map_flatMap, List.map_eq_flatMap, List.flatMap_assoc]
    using hall

end ClassDecl

/-- In the source of a class whose chains have conditional branches and whose strings have neither
braces nor line breaks, lines are indented by two spaces for each open brace, and no brace is open
before the first three lines only: the declaration of the package, a blank line and the head of the
class. The lines of such a section are aligned at the indentation where the section begins. -/
theorem ClassDecl.source_aligned (dialect : Dialect) {c : ClassDecl} (hheaded : c.Headed)
    (hplain : ∀ text ∈ c.texts, Plain text) :
    Aligned 0 (Text.lines (c.source dialect).toList) ∧
      (Text.lines (c.source dialect).toList).take 3 =
        [(dialect.packageLine c.package).toList, [], (dialect.classHead c.name).toList] ∧
      (∀ before line after, Text.lines (c.source dialect).toList = before ++ line :: after →
        (netBraces before = 0 ↔ before.length < 3)) ∧
      ∀ s : Section, s.Headed → (∀ text ∈ s.texts, Plain text) → ∀ indent : Nat,
        Aligned indent (Text.lines (s.source dialect indent).toList) := by
  have hpackage : Plain c.package := hplain _ (by simp [texts])
  have hname : Plain c.name := hplain _ (by simp [texts])
  have honeLine : OneLine c.texts := fun text htext => (hplain text htext).newline_not_mem
  have hmembers := leads_members dialect hheaded hplain
  have hfirst : Leads 0 0 0 0 [Line.chars ⟨0, dialect.packageLine c.package⟩] := by
    apply (Line.turns_packageLine dialect hpackage).leads <;> simp
  have hblank : Leads 0 0 0 0 [Line.blank.chars] := Line.leads_blank (by omega) (by omega)
  have hhead : Leads 0 0 0 1 [Line.chars ⟨0, dialect.classHead c.name⟩] := by
    apply (Line.turns_classHead dialect hname).leads <;> simp
  have hlines : Text.lines (c.source dialect).toList = (c.lines dialect).map Line.chars := by
    rw [c.source_eq_textOf, Line.lines_textOf (c.tidy_lines dialect honeLine)]
  rw [hlines]
  refine ⟨?_, ?_, fun before line after hsplit => ?_, fun s hs htexts indent => ?_⟩
  · exact (hfirst.cons (hblank.cons (hhead.cons (hmembers.mono (by omega))))).aligned
  · simp [ClassDecl.lines, Line.chars, Line.blank]
  · have hnet {next : Int} {line : List Char} (h : Leads 0 0 0 next [line]) :
        netBraces [line] = next := by
      have hnext := h.next_eq
      omega
    exact hmembers.netBraces_eq_zero_iff (hnet hfirst) (hnet hblank) (hnet hhead) hsplit
  · have hbreaks : ∀ text ∈ s.texts, '\n' ∉ text.toList :=
      fun text htext => (htexts text htext).newline_not_mem
    have htidy := s.tidy_lines dialect hbreaks indent
    rw [s.source_eq_textOf, Line.lines_textOf htidy]
    exact (s.leads_lines dialect hs htexts indent (Int.le_refl 0) (by simp)).aligned

/-- A class with a whole chain inside a loop, and with names that are empty or begin with spaces. -/
def ClassDecl.staggered : ClassDecl where
  package := "  "
  name := ""
  properties := [⟨1, .string, false, .text " // "⟩]
  methods := [⟨" m", [⟨"", .quotedName "  "⟩],
    [.loop "  " 7 3 (.branch (.conditional ⟨⟨false, .literal true⟩, []⟩ (.leaf .print)
      (.conditional ⟨⟨true, .integers 1 .less 2⟩, []⟩ (.leaf .throw)
        (.otherwise (.leaf .print)))))], 0⟩]

theorem ClassDecl.source_aligned_staggered :
    staggered.Headed ∧ (∀ text ∈ staggered.texts, Plain text) ∧
      Aligned 0 (Text.lines (staggered.source .extended).toList) ∧
      (Text.lines (staggered.source .extended).toList).map margin =
        [0, 0, 0, 2, 0, 2, 4, 0, 4, 6, 8, 6, 8, 6, 8, 6, 4, 0, 4, 2, 0] := by
  have hheaded : staggered.Headed := by
    simp [Headed, staggered, Section.Headed, Chain.Headed, Chain.conditionalCount]
  have hplain : ∀ text ∈ staggered.texts, Plain text := by decide
  have htidy := staggered.tidy_lines .extended fun text htext => (hplain text htext).newline_not_mem
  obtain ⟨haligned, -⟩ := source_aligned .extended hheaded hplain
  refine ⟨hheaded, hplain, haligned, ?_⟩
  rw [source_eq_textOf, Line.lines_textOf htidy]
  decide +kernel

end ClassMill
