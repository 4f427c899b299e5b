import ClassMill.Proofs.Lines.Split
import ClassMill.Proofs.Tree.Regular
import ClassMill.Proofs.Tree.Texts

/-!
# What the lines of trees contain

Names, literals and conditions of regular trees are plain: they have no line break and no brace.
If no string of a tree has a line break, no line of it has one, and every line but a blank one
begins with a character other than a space.
-/

namespace ClassMill

open Text

theorem Name.IsWord.plain {name : String} (h : IsWord name) : Plain name := fun c hc =>
  isPlain_of_isAlpha (h.2 c hc)

theorem Name.IsMethodName.plain {name : String} (h : IsMethodName name) : Plain name := by
  obtain ⟨stem, hstem, rfl⟩ := h
  exact hstem.plain.append (by decide)

/-! ## Conditions -/

theorem Atom.plain_text (a : Atom) : Plain a.text := by
  have hopen : Plain "(" := by decide
  have hspace : Plain " " := by decide
  have hclose : Plain ")" := by decide
  cases a with
  | literal value => exact plain_boolText value
  | booleans left op right =>
    have hop : Plain op.text := by cases op <;> decide
    simp only [text, plain_append, plain_boolText, hop, hopen, hspace, hclose, and_self]
  | integers left op right =>
    have hop : Plain op.text := by cases op <;> decide
    simp only [text, plain_append, plain_wordText, hop, hopen, hspace, hclose, and_self]

theorem Clause.plain_text (c : Clause) : Plain c.text := by
  unfold text
  split
  · exact Plain.append (by decide) c.atom.plain_text
  · exact c.atom.plain_text

theorem Condition.plain_joinedText (joined : Combiner × Clause) : Plain (joinedText joined) := by
  have hcombiner : Plain joined.1.text := by
    cases joined.1 <;> decide
  have hspace : Plain " " := by decide
  simp only [joinedText, plain_append, hspace, hcombiner, joined.2.plain_text, and_self]

theorem Condition.plain_text (c : Condition) : Plain c.text := by
  intro d hd
  rw [toList_text] at hd
  rcases List.mem_append.mp hd with hd | hd
  · exact c.first.plain_text d hd
  · obtain ⟨joined, _, hmem⟩ := List.mem_flatMap.mp hd
    exact plain_joinedText joined d hmem

/-! ## Local variables and properties -/

theorem Initializer.plain_text {i : Initializer} (h : ∀ text ∈ i.texts, Plain text) :
    Plain i.text := by
  have hquote : Plain "\"" := by decide
  cases i with
  | quotedBoolean value => simp only [text, plain_append, hquote, plain_boolText, and_self]
  | integer value => exact plain_wordText value
  | real value => exact plain_compactText value
  | quotedName name =>
    have hname : Plain name := h name (by simp [texts])
    simp only [text, plain_append, hquote, hname, and_self]

theorem Initializer.Regular.plain_text {i : Initializer} (h : i.Regular) : Plain i.text := by
  apply Initializer.plain_text
  intro text htext
  cases i with
  | quotedName name =>
    rw [List.mem_singleton.mp htext]
    exact h.1.plain
  | _ => simp [Initializer.texts] at htext

theorem Initializer.newline_not_mem_text {i : Initializer} (h : OneLine i.texts) :
    '\n' ∉ i.text.toList := by
  cases i with
  | quotedBoolean value =>
    simpa [text] using (plain_boolText value).newline_not_mem
  | integer value => exact (plain_wordText value).newline_not_mem
  | real value => exact (plain_compactText value).newline_not_mem
  | quotedName name =>
    have hname : '\n' ∉ name.toList := h name (by simp [texts])
    simpa [text] using hname

theorem Dialect.plain_typeName (dialect : Dialect) (type : PropertyType) :
    Plain (dialect.typeName type) := by
  cases dialect <;> cases type <;> decide

theorem Dialect.plain_defaultLiteral (dialect : Dialect) (type : PropertyType)
    {value : DefaultValue} (h : ∀ text ∈ value.texts, Plain text) :
    Plain (dialect.defaultLiteral type value) := by
  cases value with
  | ordinal n =>
    rw [defaultLiteral]
    split
    · exact ((plain_wordText n).append (by decide)).append (dialect.plain_typeName type)
    · exact plain_wordText n
  | text content =>
    have hcontent : Plain content := h content (by simp [DefaultValue.texts])
    exact Plain.append (Plain.append (by decide) hcontent) (by decide)
  | boolean b => exact plain_boolText b

theorem Dialect.plain_packageLine (dialect : Dialect) {package : String} (h : Plain package) :
    Plain (dialect.packageLine package) := by
  cases dialect with
  | core => exact Plain.append (by decide) h
  | extended => exact Plain.append (Plain.append (by decide) h) (by decide)

/-! ## Tidiness -/

namespace Line

theorem tidy_blank : blank.Tidy := ⟨by decide, by rintro c ⟨⟩⟩

variable (dialect : Dialect) (indent : Nat)

theorem tidy_packageLine {package : String} (h : '\n' ∉ package.toList) :
    Tidy ⟨indent, dialect.packageLine package⟩ := by
  cases dialect <;> constructor <;> simp [Dialect.packageLine, h]

theorem tidy_classHead {name : String} (h : '\n' ∉ name.toList) :
    Tidy ⟨indent, dialect.classHead name⟩ := by
  constructor <;> simp [Dialect.classHead, h]

theorem tidy_propertyLine {p : Property} (h : OneLine p.default.texts) :
    Tidy ⟨indent, dialect.propertyLine p⟩ := by
  have hordinal : '\n' ∉ Nat.toDigits 10 p.ordinal.toNat := by
    simpa using (plain_wordText p.ordinal).newline_not_mem
  have htype := (dialect.plain_typeName p.type).newline_not_mem
  have hreadonly : '\n' ∉ (if p.readonly then "readonly " else "").toList := by
    cases p.readonly <;> decide
  have hdefault : '\n' ∉ (dialect.defaultLiteral p.type p.default).toList := by
    unfold Dialect.defaultLiteral
    cases hp : p.default with
    | ordinal n =>
      have hn := (plain_wordText n).newline_not_mem
      dsimp only
      split
      · simpa [htype] using hn
      · exact hn
    | text content =>
      have hcontent : '\n' ∉ content.toList := h content (by simp [hp, DefaultValue.texts])
      simpa [Dialect.plainLiteral] using hcontent
    | boolean value => exact (plain_boolText value).newline_not_mem
  constructor
  · simp [Dialect.propertyLine, Property.fieldName, Property.accessorName, hordinal, htype,
      hreadonly, hdefault]
  · simp [Dialect.propertyLine]

theorem tidy_methodHead {name : String} (h : '\n' ∉ name.toList) :
    Tidy ⟨indent, dialect.methodHead name⟩ := by
  constructor <;> simp [Dialect.methodHead, h]

theorem tidy_localLine {l : Local} (h : OneLine l.texts) : Tidy ⟨indent, dialect.localLine l⟩ := by
  obtain ⟨hname, hinitial⟩ := OneLine.cons_iff.mp h
  constructor <;>
    simp [Dialect.localLine, hname, Initializer.newline_not_mem_text hinitial]

theorem tidy_leafLine (statement : Leaf) : Tidy ⟨indent, dialect.leafLine statement⟩ := by
  cases statement <;> constructor <;> simp [Dialect.leafLine]

theorem tidy_ifHead (c : Condition) : Tidy ⟨indent, dialect.ifHead c⟩ := by
  constructor <;> simp [Dialect.ifHead, c.plain_text.newline_not_mem]

theorem tidy_elseIfHead (c : Condition) : Tidy ⟨indent, dialect.elseIfHead c⟩ := by
  constructor <;> simp [Dialect.elseIfHead, c.plain_text.newline_not_mem]

theorem tidy_elseHead : Tidy ⟨indent, dialect.elseHead⟩ := by
  constructor <;> simp [Dialect.elseHead]

theorem tidy_loopHead {counter : String} (h : '\n' ∉ counter.toList) (start stop : UInt64) :
    Tidy ⟨indent, dialect.loopHead counter start stop⟩ := by
  have hnumber : ∀ n : UInt64, '\n' ∉ Nat.toDigits 10 n.toNat := fun n => by
    simpa using (plain_wordText n).newline_not_mem
  constructor <;> simp [Dialect.loopHead, h, hnumber]

theorem tidy_blockEnd : Tidy ⟨indent, dialect.blockEnd⟩ := by
  constructor <;> simp [Dialect.blockEnd]

theorem tidy_returnLine (value : UInt64) : Tidy ⟨indent, dialect.returnLine value⟩ := by
  have hnumber : '\n' ∉ Nat.toDigits 10 value.toNat := by
    simpa using (plain_wordText value).newline_not_mem
  constructor <;> simp [Dialect.returnLine, hnumber]

end Line

mutual

theorem Section.tidy_lines (dialect : Dialect) : ∀ {s : Section}, OneLine s.texts →
    ∀ (indent : Nat), ∀ l ∈ s.lines dialect indent, l.Tidy
  | .leaf statement, _, indent, l, hl => by
    simp only [Section.lines, List.mem_singleton] at hl
    subst hl
    exact Line.tidy_leafLine dialect indent statement
  | .branch chain, h, indent, l, hl => by
    rw [Section.texts] at h
    simp only [Section.lines, List.mem_append, List.mem_singleton] at hl
    rcases hl with hl | rfl
    · exact Chain.tidy_lines dialect h true indent l hl
    · exact Line.tidy_blockEnd dialect indent
  | .loop counter start stop body, h, indent, l, hl => by
    rw [Section.texts, OneLine.cons_iff] at h
    simp only [Section.lines, List.mem_cons, List.mem_append, List.not_mem_nil, or_false] at hl
    rcases hl with rfl | hl | rfl
    · exact Line.tidy_loopHead dialect indent h.1 start stop
    · exact Section.tidy_lines dialect h.2 _ l hl
    · exact Line.tidy_blockEnd dialect indent

theorem Chain.tidy_lines (dialect : Dialect) : ∀ {c : Chain}, OneLine c.texts →
    ∀ (first : Bool) (indent : Nat), ∀ l ∈ c.lines dialect first indent, l.Tidy
  | .empty, _, _, _, l, hl => by
    simp only [Chain.lines, List.not_mem_nil] at hl
  | .otherwise body, h, first, indent, l, hl => by
    rw [Chain.texts] at h
    simp only [Chain.lines, List.mem_cons] at hl
    rcases hl with rfl | hl
    · exact Line.tidy_elseHead dialect indent
    · exact Section.tidy_lines dialect h _ l hl
  | .conditional condition body rest, h, first, indent, l, hl => by
    rw [Chain.texts, OneLine.append_iff] at h
    simp only [Chain.lines, List.mem_cons, List.mem_append] at hl
    rcases hl with rfl | hl | hl
    · cases first
      · exact Line.tidy_elseIfHead dialect indent condition
      · exact Line.tidy_ifHead dialect indent condition
    · exact Section.tidy_lines dialect h.1 _ l hl
    · exact Chain.tidy_lines dialect h.2 false indent l hl

end

theorem Method.tidy_lines (dialect : Dialect) {m : Method} (h : OneLine m.texts)
    (indent : Nat) : ∀ l ∈ m.lines dialect indent, l.Tidy := by
  intro l hl
  simp only [texts, OneLine.cons_iff, OneLine.append_iff, OneLine.flatMap_iff] at h
  obtain ⟨hname, hlocals, hsections⟩ := h
  simp only [Method.lines, List.mem_cons, List.mem_append, List.mem_map, List.mem_flatMap,
    List.not_mem_nil, or_false] at hl
  rcases hl with rfl | ⟨item, hitem, rfl⟩ | rfl | ⟨item, hitem, hl⟩ | rfl | rfl | rfl
  · exact Line.tidy_methodHead dialect indent hname
  · exact Line.tidy_localLine dialect _ (hlocals item hitem)
  · exact Line.tidy_blank
  · exact Section.tidy_lines dialect (hsections item hitem) _ l hl
  · exact Line.tidy_blank
  · exact Line.tidy_returnLine dialect _ m.result
  · exact Line.tidy_blockEnd dialect indent

/-- All lines of a class are tidy if its strings have no line break. -/
theorem ClassDecl.tidy_lines (dialect : Dialect) {c : ClassDecl} (h : OneLine c.texts) :
    ∀ l ∈ c.lines dialect, l.Tidy := by
  intro l hl
  simp only [texts, OneLine.cons_iff, OneLine.append_iff, OneLine.flatMap_iff] at h
  obtain ⟨hpackage, hname, hproperties, hmethods⟩ := h
  simp only [ClassDecl.lines, ClassDecl.propertyLines, ClassDecl.methodLines, List.mem_cons,
    List.mem_append, List.mem_map, List.mem_flatMap, List.not_mem_nil, or_false] at hl
  rcases hl with rfl | rfl | rfl | ⟨p, hp, rfl⟩ | ⟨m, hm, rfl | hl⟩ | rfl
  · exact Line.tidy_packageLine dialect 0 hpackage
  · exact Line.tidy_blank
  · exact Line.tidy_classHead dialect 0 hname
  · exact Line.tidy_propertyLine dialect _ (hproperties p hp)
  · exact Line.tidy_blank
  · exact Method.tidy_lines dialect (hmethods m hm) _ l hl
  · exact Line.tidy_blockEnd dialect 0

/-! ## Regular trees -/

mutual

theorem Section.Regular.oneLine : ∀ {s : Section}, s.Regular → OneLine s.texts
  | .leaf _, _ => by simp [Section.texts, OneLine]
  | .branch chain, h => by
    rw [Section.Regular] at h
    rw [Section.texts]
    exact Chain.Regular.oneLine h.2
  | .loop counter _ _ body, h => by
    rw [Section.Regular] at h
    rw [Section.texts, OneLine.cons_iff]
    exact ⟨h.1.plain.newline_not_mem, Section.Regular.oneLine h.2⟩

theorem Chain.Regular.oneLine : ∀ {c : Chain}, c.Regular → OneLine c.texts
  | .empty, _ => by simp [Chain.texts, OneLine]
  | .otherwise body, h => by
    rw [Chain.Regular] at h
    rw [Chain.texts]
    exact Section.Regular.oneLine h
  | .conditional _ body rest, h => by
    rw [Chain.Regular] at h
    rw [Chain.texts, OneLine.append_iff]
    exact ⟨Section.Regular.oneLine h.1, Chain.Regular.oneLine h.2⟩

end

theorem Local.Regular.oneLine {l : Local} (h : l.Regular) : OneLine l.texts := by
  rw [texts, OneLine.cons_iff]
  refine ⟨h.name.plain.newline_not_mem, ?_⟩
  have hinitial := h.initial
  intro text htext
  cases hi : l.initial with
  | quotedName name =>
    rw [hi] at hinitial htext
    rw [List.mem_singleton.mp htext]
    exact hinitial.1.plain.newline_not_mem
  | _ => simp [hi, Initializer.texts] at htext

theorem DefaultValue.Regular.oneLine {d : DefaultValue} (h : d.Regular) : OneLine d.texts := by
  intro text htext
  cases d with
  | text content =>
    rw [List.mem_singleton.mp htext]
    exact h
  | _ => simp [texts] at htext

/-- The strings of a regular class have no line break. -/
theorem ClassDecl.Regular.oneLine {dialect : Dialect} {c : ClassDecl} (h : c.Regular dialect) :
    OneLine c.texts := by
  simp only [texts, Method.texts, OneLine.cons_iff, OneLine.append_iff, OneLine.flatMap_iff]
  refine ⟨h.package, h.name.plain.newline_not_mem, fun p hp => (h.properties p hp).default.oneLine,
    fun m hm => ?_⟩
  have hmethod := h.methods m hm
  exact ⟨hmethod.name.plain.newline_not_mem, fun l hl => (hmethod.locals l hl).oneLine,
    fun s hs => (hmethod.sections s hs).oneLine⟩

/-- All lines of a regular class are tidy. -/
theorem ClassDecl.Regular.tidy_lines {dialect : Dialect} {c : ClassDecl} (h : c.Regular dialect) :
    ∀ l ∈ c.lines dialect, l.Tidy :=
  ClassDecl.tidy_lines dialect h.oneLine

end ClassMill
