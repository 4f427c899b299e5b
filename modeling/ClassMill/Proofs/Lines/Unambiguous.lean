import ClassMill.Proofs.Lines.Spelling
import Mathlib.Data.List.Forall2

/-!
# Written classes can be read in one way only

Two regular classes of one text agree, except that floats are known by their text only. The
text gives the lines, and the lines are read from the front: the first character of a line
tells leaves, chains and loops apart, the line after a body tells how a chain goes on, and
blank lines separate the parts of a method.
-/

namespace ClassMill

/-- Methods that agree up to local variables that are written alike. -/
structure Method.Alike (m n : Method) : Prop where
  name : m.name = n.name
  locals : List.Forall₂ Local.Alike m.locals n.locals
  sections : m.sections = n.sections
  result : m.result = n.result

/-- Classes that agree up to local variables that are written alike. -/
structure ClassDecl.Alike (c d : ClassDecl) : Prop where
  package : c.package = d.package
  name : c.name = d.name
  properties : c.properties = d.properties
  methods : List.Forall₂ Method.Alike c.methods d.methods

/-! ## Telling lines apart -/

namespace Line

/-- The first character of the content. -/
def lead (l : Line) : Option Char := l.content.toList.head?

theorem lead_blank : lead blank = none := rfl

variable (dialect : Dialect) (indent : Nat)

theorem lead_blockEnd : lead ⟨indent, dialect.blockEnd⟩ = some '\x7d' := by
  simp [lead, Dialect.blockEnd]

theorem lead_propertyLine (p : Property) : lead ⟨indent, dialect.propertyLine p⟩ = some 'v' := by
  simp [lead, Dialect.propertyLine]

theorem lead_localLine (l : Local) : lead ⟨indent, dialect.localLine l⟩ = some 'v' := by
  simp [lead, Dialect.localLine]

theorem lead_ifHead (c : Condition) : lead ⟨indent, dialect.ifHead c⟩ = some 'i' := by
  simp [lead, Dialect.ifHead]

theorem lead_loopHead (counter : String) (start stop : UInt64) :
    lead ⟨indent, dialect.loopHead counter start stop⟩ = some 'f' := by
  simp [lead, Dialect.loopHead]

end Line

theorem Dialect.blockEnd_ne_elseHead (dialect : Dialect) :
    dialect.blockEnd ≠ dialect.elseHead := by
  intro h
  have hchars := congrArg String.toList h
  simp [blockEnd, elseHead] at hchars

theorem Dialect.blockEnd_ne_elseIfHead (dialect : Dialect) (c : Condition) :
    dialect.blockEnd ≠ dialect.elseIfHead c := by
  intro h
  have hchars := congrArg String.toList h
  simp [blockEnd, elseIfHead] at hchars

theorem Dialect.elseHead_ne_elseIfHead (dialect : Dialect) (c : Condition) :
    dialect.elseHead ≠ dialect.elseIfHead c := by
  intro h
  have hchars := congrArg String.toList h
  simp [elseHead, elseIfHead] at hchars

/-- The characters with which the first line of a section of a kind begins. -/
def SectionKind.lead : SectionKind → Char
  | .print => 'p'
  | .throw => 't'
  | .branch => 'i'
  | .loop => 'f'

/-- The first line of a regular section tells its kind. -/
theorem Section.Regular.lead_lines (dialect : Dialect) {s : Section} (h : s.Regular)
    (indent : Nat) :
    ∃ l rest, s.lines dialect indent = l :: rest ∧ l.lead = some s.kind.lead := by
  cases s with
  | leaf statement =>
    refine ⟨_, [], by rw [Section.lines], ?_⟩
    cases statement <;> simp [Line.lead, Dialect.leafLine, Section.kind, SectionKind.lead]
  | branch chain =>
    rw [Section.Regular] at h
    cases chain with
    | empty => simp [Chain.conditionalCount] at h
    | otherwise body => simp [Chain.conditionalCount] at h
    | conditional condition body rest =>
      refine ⟨_, _, by rw [Section.lines, Chain.lines, List.cons_append], ?_⟩
      exact Line.lead_ifHead dialect indent condition
  | loop counter start stop body =>
    refine ⟨_, _, by rw [Section.lines], ?_⟩
    exact Line.lead_loopHead dialect indent counter start stop

/-- Regular sections whose lines begin alike are of one kind. -/
theorem Section.Regular.kind_eq (dialect : Dialect) {s t : Section} (hs : s.Regular)
    (ht : t.Regular) {indent : Nat} {r r' : List Line}
    (h : s.lines dialect indent ++ r = t.lines dialect indent ++ r') : s.kind = t.kind := by
  obtain ⟨l, rest, hsl, hl⟩ := hs.lead_lines dialect indent
  obtain ⟨l', rest', htl, hl'⟩ := ht.lead_lines dialect indent
  rw [hsl, htl, List.cons_append, List.cons_append, List.cons.injEq] at h
  have hlead : s.kind.lead = t.kind.lead := by
    rw [h.1, hl'] at hl
    exact (Option.some.inj hl).symm
  revert hlead
  cases s.kind <;> cases t.kind <;> decide

/-! ## Sections -/

mutual

/-- The lines of a regular section are read in one way only, whatever follows them. -/
theorem Section.Regular.lines_append_inj (dialect : Dialect) : ∀ {s t : Section}, s.Regular →
    t.Regular → ∀ {indent : Nat} {r r' : List Line},
    s.lines dialect indent ++ r = t.lines dialect indent ++ r' → s = t ∧ r = r'
  | .leaf a, t, hs, ht, indent, r, r', h => by
    have hkind := hs.kind_eq dialect ht h
    cases t with
    | leaf b =>
      simp only [Section.lines, List.cons_append, List.nil_append, List.cons.injEq,
        Line.mk.injEq, true_and] at h
      rw [Dialect.leafLine_inj h.1]
      exact ⟨rfl, h.2⟩
    | branch chain => cases a <;> simp [Section.kind] at hkind
    | loop counter start stop body => cases a <;> simp [Section.kind] at hkind
  | .branch chain, t, hs, ht, indent, r, r', h => by
    have hkind := hs.kind_eq dialect ht h
    cases t with
    | leaf b => cases b <;> simp [Section.kind] at hkind
    | branch chain' =>
      rw [Section.Regular] at hs ht
      simp only [Section.lines, List.append_assoc, List.cons_append, List.nil_append] at h
      obtain ⟨hchain, hrest⟩ := Chain.Regular.lines_append_inj dialect hs.2 ht.2
        true (fun _ => ⟨hs.1, ht.1⟩) h
      exact ⟨by rw [hchain], hrest⟩
    | loop counter start stop body => simp [Section.kind] at hkind
  | .loop counter start stop body, t, hs, ht, indent, r, r', h => by
    have hkind := hs.kind_eq dialect ht h
    cases t with
    | leaf b => cases b <;> simp [Section.kind] at hkind
    | branch chain => simp [Section.kind] at hkind
    | loop counter' start' stop' body' =>
      rw [Section.Regular] at hs ht
      simp only [Section.lines, List.append_assoc, List.cons_append, List.nil_append,
        List.cons.injEq, Line.mk.injEq, true_and] at h
      obtain ⟨hcounter, hstart, hstop⟩ := Dialect.loopHead_inj hs.1 ht.1 h.1
      obtain ⟨hbody, hrest⟩ := Section.Regular.lines_append_inj dialect hs.2 ht.2 h.2
      rw [List.cons.injEq] at hrest
      exact ⟨by rw [hcounter, hstart, hstop, hbody], hrest.2⟩

/-- The lines of the branches of a regular chain are read in one way only, up to the end of the
last block: the line after each body tells how the chain goes on. -/
theorem Chain.Regular.lines_append_inj (dialect : Dialect) : ∀ {c c' : Chain}, c.Regular →
    c'.Regular → ∀ first : Bool,
    (first = true → 0 < c.conditionalCount ∧ 0 < c'.conditionalCount) →
    ∀ {indent : Nat} {r r' : List Line},
    c.lines dialect first indent ++ ⟨indent, dialect.blockEnd⟩ :: r =
      c'.lines dialect first indent ++ ⟨indent, dialect.blockEnd⟩ :: r' → c = c' ∧ r = r'
  | .empty, c', _, _, first, hfirst, indent, r, r', h => by
    cases first with
    | true => simp [Chain.conditionalCount] at hfirst
    | false =>
      cases c' with
      | empty => simpa [Chain.lines] using h
      | otherwise body =>
        simp only [Chain.lines, List.nil_append, List.cons_append, List.cons.injEq,
          Line.mk.injEq, true_and] at h
        exact absurd h.1 dialect.blockEnd_ne_elseHead
      | conditional condition body rest =>
        simp only [Chain.lines, List.nil_append, List.cons_append, List.cons.injEq,
          Line.mk.injEq, true_and, Bool.false_eq_true, if_false] at h
        exact absurd h.1 (dialect.blockEnd_ne_elseIfHead condition)
  | .otherwise body, c', hc, hc', first, hfirst, indent, r, r', h => by
    cases first with
    | true => simp [Chain.conditionalCount] at hfirst
    | false =>
      cases c' with
      | empty =>
        simp only [Chain.lines, List.nil_append, List.cons_append, List.cons.injEq,
          Line.mk.injEq, true_and] at h
        exact absurd h.1.symm dialect.blockEnd_ne_elseHead
      | otherwise body' =>
        rw [Chain.Regular] at hc hc'
        simp only [Chain.lines, List.cons_append, List.cons.injEq, true_and] at h
        obtain ⟨hbody, hrest⟩ := Section.Regular.lines_append_inj dialect hc hc' h
        rw [List.cons.injEq] at hrest
        exact ⟨by rw [hbody], hrest.2⟩
      | conditional condition body' rest =>
        simp only [Chain.lines, List.cons_append, List.cons.injEq, Line.mk.injEq, true_and,
          Bool.false_eq_true, if_false] at h
        exact absurd h.1 (dialect.elseHead_ne_elseIfHead condition)
  | .conditional condition body rest, c', hc, hc', first, hfirst, indent, r, r', h => by
    cases c' with
    | empty =>
      cases first with
      | true => simp [Chain.conditionalCount] at hfirst
      | false =>
        simp only [Chain.lines, List.nil_append, List.cons_append, List.cons.injEq,
          Line.mk.injEq, true_and, Bool.false_eq_true, if_false] at h
        exact absurd h.1.symm (dialect.blockEnd_ne_elseIfHead condition)
    | otherwise body' =>
      cases first with
      | true => simp [Chain.conditionalCount] at hfirst
      | false =>
        simp only [Chain.lines, List.cons_append, List.cons.injEq, Line.mk.injEq, true_and,
          Bool.false_eq_true, if_false] at h
        exact absurd h.1.symm (dialect.elseHead_ne_elseIfHead condition)
    | conditional condition' body' rest' =>
      rw [Chain.Regular] at hc hc'
      simp only [Chain.lines, List.cons_append, List.append_assoc, List.cons.injEq,
        Line.mk.injEq, true_and] at h
      have hcondition : condition = condition' := by
        cases first with
        | true => exact Dialect.ifHead_inj (by simpa using h.1)
        | false => exact Dialect.elseIfHead_inj (by simpa using h.1)
      obtain ⟨hbody, hafter⟩ := Section.Regular.lines_append_inj dialect hc.1 hc'.1 h.2
      obtain ⟨hrest, hend⟩ :=
        Chain.Regular.lines_append_inj dialect hc.2 hc'.2 false (by simp) hafter
      exact ⟨by rw [hcondition, hbody, hrest], hend⟩

end

/-! ## Methods and classes -/

/-- Lists whose items are read in one way only are read in one way only, up to a line with
which no item begins. -/
theorem flatMap_append_inj {α : Type} {item : α → List Line} (good : α → Prop)
    (same : α → α → Prop) (ended : List Line → Prop)
    (hitem : ∀ {a b r s}, good a → good b → item a ++ r = item b ++ s → same a b ∧ r = s)
    (hended : ∀ {a r s}, good a → ended s → item a ++ r ≠ s) {as bs : List α} {r s : List Line}
    (has : ∀ a ∈ as, good a) (hbs : ∀ b ∈ bs, good b) (hr : ended r) (hs : ended s)
    (h : as.flatMap item ++ r = bs.flatMap item ++ s) : List.Forall₂ same as bs ∧ r = s := by
  induction as generalizing bs with
  | nil =>
    cases bs with
    | nil => exact ⟨.nil, h⟩
    | cons b bs =>
      rw [List.flatMap_cons, List.append_assoc] at h
      exact absurd h.symm (hended (hbs b (by simp)) hr)
  | cons a as ih =>
    cases bs with
    | nil =>
      rw [List.flatMap_cons, List.append_assoc] at h
      exact absurd h (hended (has a (by simp)) hs)
    | cons b bs =>
      rw [List.flatMap_cons, List.flatMap_cons, List.append_assoc, List.append_assoc] at h
      obtain ⟨hab, hrest⟩ := hitem (has a (by simp)) (hbs b (by simp)) h
      obtain ⟨hall, hend⟩ := ih (fun x hx => has x (List.mem_cons_of_mem a hx))
        (fun x hx => hbs x (List.mem_cons_of_mem b hx)) hrest
      exact ⟨.cons hab hall, hend⟩

/-- The lines of local variables are read in one way only, up to a blank line. -/
theorem Local.lines_append_inj (dialect : Dialect) {ls ms : List Local}
    (hls : ∀ l ∈ ls, l.Regular) (hms : ∀ m ∈ ms, m.Regular) {indent : Nat} {r r' : List Line}
    (h : ls.map (fun l => ⟨indent, dialect.localLine l⟩) ++ Line.blank :: r =
      ms.map (fun m => ⟨indent, dialect.localLine m⟩) ++ Line.blank :: r') :
    List.Forall₂ Local.Alike ls ms ∧ r = r' := by
  rw [List.map_eq_flatMap, List.map_eq_flatMap] at h
  obtain ⟨hlocals, hrest⟩ := flatMap_append_inj Local.Regular Local.Alike
    (fun s => ∃ t, s = Line.blank :: t)
    (fun {l m r s} hl hm heq => by
      simp only [List.cons_append, List.nil_append, List.cons.injEq, Line.mk.injEq,
        true_and] at heq
      exact ⟨Dialect.alike_of_localLine_eq hl hm heq.1, heq.2⟩)
    (fun {l r s} _ hs heq => by
      obtain ⟨t, rfl⟩ := hs
      rw [List.cons_append, List.cons.injEq] at heq
      have hlead := Line.lead_localLine dialect indent l
      rw [heq.1, Line.lead_blank] at hlead
      cases hlead)
    hls hms ⟨r, rfl⟩ ⟨r', rfl⟩ h
  rw [List.cons.injEq] at hrest
  exact ⟨hlocals, hrest.2⟩

/-- The lines of sections one after the other are read in one way only, up to a blank line. -/
theorem Section.flatMap_lines_append_inj (dialect : Dialect) {ss ts : List Section}
    (hss : ∀ s ∈ ss, s.Regular) (hts : ∀ t ∈ ts, t.Regular) {indent : Nat} {r r' : List Line}
    (h : ss.flatMap (fun s => s.lines dialect indent) ++ Line.blank :: r =
      ts.flatMap (fun t => t.lines dialect indent) ++ Line.blank :: r') :
    ss = ts ∧ r = r' := by
  obtain ⟨hsections, hrest⟩ := flatMap_append_inj Section.Regular Eq
    (fun s => ∃ t, s = Line.blank :: t)
    (fun hs ht heq => hs.lines_append_inj dialect ht heq)
    (fun {s r u} hs hu heq => by
      obtain ⟨l, rest, hlines, hlead⟩ := hs.lead_lines dialect indent
      obtain ⟨t, rfl⟩ := hu
      rw [hlines, List.cons_append, List.cons.injEq] at heq
      rw [heq.1, Line.lead_blank] at hlead
      cases hlead)
    hss hts ⟨r, rfl⟩ ⟨r', rfl⟩ h
  rw [List.cons.injEq] at hrest
  exact ⟨List.forall₂_eq_eq_eq ▸ hsections, hrest.2⟩

/-- The lines of a regular method are read in one way only, up to the initial values that are
written alike. -/
theorem Method.Regular.lines_append_inj (dialect : Dialect) {m n : Method} (hm : m.Regular)
    (hn : n.Regular) {indent : Nat} {r r' : List Line}
    (h : m.lines dialect indent ++ r = n.lines dialect indent ++ r') : m.Alike n ∧ r = r' := by
  simp only [Method.lines, List.cons_append, List.append_assoc, List.nil_append,
    List.cons.injEq, Line.mk.injEq, true_and] at h
  obtain ⟨hlocals, hbody⟩ := Local.lines_append_inj dialect hm.locals hn.locals h.2
  obtain ⟨hsections, hend⟩ :=
    Section.flatMap_lines_append_inj dialect hm.sections hn.sections hbody
  simp only [List.cons.injEq, Line.mk.injEq, true_and] at hend
  have hname := Dialect.methodHead_inj h.1
  have hresult := Dialect.returnLine_inj hend.1
  exact ⟨⟨hname, hlocals, hsections, hresult⟩, hend.2⟩

theorem Method.Alike.lines_eq (dialect : Dialect) {m n : Method} (h : m.Alike n)
    (indent : Nat) : m.lines dialect indent = n.lines dialect indent := by
  have hlocals : ∀ inner : Nat, m.locals.map (fun l => (⟨inner, dialect.localLine l⟩ : Line)) =
      n.locals.map fun l => ⟨inner, dialect.localLine l⟩ := by
    intro inner
    rw [← List.forall₂_eq_eq_eq, List.forall₂_map_left_iff, List.forall₂_map_right_iff]
    exact h.locals.imp fun l k hlk => by rw [Dialect.localLine_eq hlk]
  rw [Method.lines, Method.lines, h.name, hlocals, h.sections, h.result]

namespace ClassDecl

variable {dialect : Dialect} {c d : ClassDecl}

theorem Alike.lines_eq (h : c.Alike d) : c.lines dialect = d.lines dialect := by
  have hmethods : c.methodLines dialect = d.methodLines dialect := by
    rw [methodLines, methodLines, List.flatMap_def, List.flatMap_def]
    congr 1
    rw [← List.forall₂_eq_eq_eq, List.forall₂_map_left_iff, List.forall₂_map_right_iff]
    exact h.methods.imp fun m n hmn => by rw [hmn.lines_eq]
  rw [lines, lines, h.package, h.name, propertyLines, propertyLines, h.properties, hmethods]

/-- The lines of the methods are read in one way only, up to the end of the class. -/
theorem methodLines_inj (hc : ∀ m ∈ c.methods, m.Regular) (hd : ∀ m ∈ d.methods, m.Regular)
    (h : c.methodLines dialect ++ [⟨0, dialect.blockEnd⟩] =
      d.methodLines dialect ++ [⟨0, dialect.blockEnd⟩]) :
    List.Forall₂ Method.Alike c.methods d.methods := by
  refine (flatMap_append_inj Method.Regular Method.Alike
    (fun s => s = [⟨0, dialect.blockEnd⟩]) ?_ ?_ hc hd rfl rfl h).1
  · intro m n r s hm hn heq
    rw [List.cons_append, List.cons_append, List.cons.injEq] at heq
    exact hm.lines_append_inj dialect hn heq.2
  · intro m r s _ hs heq
    subst hs
    rw [List.cons_append, List.cons.injEq] at heq
    have hlead := Line.lead_blockEnd dialect 0
    rw [← heq.1, Line.lead_blank] at hlead
    cases hlead

/-- What stands after the properties begins with a blank line or with the end of the class. -/
theorem lead_methodLines (c : ClassDecl) :
    ∃ l rest, c.methodLines dialect ++ [⟨0, dialect.blockEnd⟩] = l :: rest ∧
      l.lead ≠ some 'v' := by
  unfold methodLines
  cases c.methods with
  | nil =>
    refine ⟨_, [], rfl, ?_⟩
    rw [Line.lead_blockEnd]
    decide
  | cons m ms => exact ⟨Line.blank, _, rfl, by decide⟩

/-- The lines of regular classes agree only if the classes are alike. -/
theorem Regular.alike_of_lines_eq (hc : c.Regular dialect) (hd : d.Regular dialect)
    (h : c.lines dialect = d.lines dialect) : c.Alike d := by
  simp only [lines, List.cons.injEq, Line.mk.injEq, true_and] at h
  obtain ⟨hpackage, hname, hmembers⟩ := h
  rw [propertyLines, propertyLines, List.map_eq_flatMap, List.map_eq_flatMap] at hmembers
  obtain ⟨hproperties, hmethods⟩ := flatMap_append_inj (Property.Regular dialect) Eq
    (fun s => ∃ l rest, s = l :: rest ∧ l.lead ≠ some 'v')
    (fun {p q r s} hp hq heq => by
      simp only [List.cons_append, List.nil_append, List.cons.injEq, Line.mk.injEq,
        true_and] at heq
      exact ⟨Dialect.propertyLine_inj hp.type hq.type heq.1, heq.2⟩)
    (fun {p r s} _ hs heq => by
      obtain ⟨l, rest, rfl, hlead⟩ := hs
      rw [List.cons_append, List.cons.injEq] at heq
      exact hlead (heq.1 ▸ Line.lead_propertyLine dialect _ p))
    hc.properties hd.properties c.lead_methodLines d.lead_methodLines hmembers
  exact ⟨Dialect.packageLine_inj hpackage, Dialect.classHead_inj hname,
    List.forall₂_eq_eq_eq ▸ hproperties, methodLines_inj hc.methods hd.methods hmethods⟩

/-- Writing loses nothing: regular classes have one source exactly if they are alike. -/
theorem source_eq_iff_alike (hc : c.Regular dialect) (hd : d.Regular dialect) :
    c.source dialect = d.source dialect ↔ c.Alike d := by
  rw [source_eq_textOf, source_eq_textOf]
  constructor
  · intro h
    have hlines := Line.eq_of_textOf_eq hc.tidy_lines hd.tidy_lines h
    exact hc.alike_of_lines_eq hd hlines
  · intro h
    rw [h.lines_eq]

/-- A class whose single local variable has the given initial value. -/
def withInitial (initial : Initializer) : ClassDecl where
  package := "com.example"
  name := "Sample"
  properties := [⟨1, .string, true, .text "Property1"⟩]
  methods := [{
    name := "run_method"
    locals := [⟨"flag", initial⟩]
    sections := [.branch (.conditional ⟨⟨true, .literal false⟩, []⟩
      (.loop "i" 0 9 (.leaf .print)) (.otherwise (.leaf .throw)))]
    result := 7 }]

theorem regular_withInitial (initial : Initializer) (h : initial.Regular) :
    (withInitial initial).Regular .core := by
  have hclass : Name.IsWord "Sample" := by decide
  have hstem : Name.IsWord "run" := by decide
  have hlocal : Name.IsWord "flag" := by decide
  have hcounter : Name.IsWord "i" := by decide
  have hpackage : '\n' ∉ "com.example".toList := by decide
  have hdefault : '\n' ∉ "Property1".toList := by decide
  refine ⟨hpackage, hclass, fun p hp => ?_, fun m hm => ?_⟩
  · rw [List.mem_singleton.mp hp]
    exact ⟨by decide, hdefault⟩
  · rw [List.mem_singleton.mp hm]
    refine ⟨⟨"run", hstem, rfl⟩, fun l hl => ?_, fun s hs => ?_⟩
    · rw [List.mem_singleton.mp hl]
      exact ⟨hlocal, h⟩
    · rw [List.mem_singleton.mp hs]
      exact ⟨by decide, ⟨hcounter, trivial⟩, trivial⟩

/-- A quoted boolean and a quoted name lead to different sources. -/
theorem source_withInitial_ne :
    (withInitial (.quotedBoolean true)).Regular .core ∧
      (withInitial (.quotedName "truth")).Regular .core ∧
      (withInitial (.quotedBoolean true)).source .core ≠
        (withInitial (.quotedName "truth")).source .core := by
  have hboolean := regular_withInitial (.quotedBoolean true) trivial
  have hname := regular_withInitial (.quotedName "truth") ⟨by decide, by decide⟩
  refine ⟨hboolean, hname, fun h => ?_⟩
  have halike := (source_eq_iff_alike hboolean hname).mp h
  cases halike.methods with
  | cons hmethod _ =>
    cases hmethod.locals with
    | cons hlocal _ => cases hlocal.initial

end ClassDecl

end ClassMill
