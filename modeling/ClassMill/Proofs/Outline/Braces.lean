import ClassMill.Proofs.Lines.Content
import ClassMill.Proofs.Outline.Reader

/-!
# How an outline sees each line

Every line of a regular class but the first comes back from trimming unchanged, opens and closes
a number of braces that its kind fixes, and only the head of the class looks like one. Names,
numbers and literals contribute no brace.
-/

namespace ClassMill

open Text

namespace Line

theorem trim_chars (l : Line) : trim l.chars = trim l.content.toList :=
  trim_replicate_append l.indent l.content.toList

theorem opened_chars (l : Line) : Outline.opened l.chars = Outline.opened l.content.toList := by
  simp [Outline.opened, chars, List.count_replicate]

theorem closed_chars (l : Line) : Outline.closed l.chars = Outline.closed l.content.toList := by
  simp [Outline.closed, chars, List.count_replicate]

end Line

namespace Outline

/-- What an outline sees of a line with the given content. -/
structure Reads (content : String) (opens closes : Nat) : Prop where
  trim_eq : trim content.toList = content.toList
  opened_eq : opened content.toList = opens
  closed_eq : closed content.toList = closes

theorem opened_append (s t : List Char) : opened (s ++ t) = opened s + opened t :=
  List.count_append

theorem closed_append (s t : List Char) : closed (s ++ t) = closed s + closed t :=
  List.count_append

theorem opened_of_plain {text : String} (h : Plain text) : opened text.toList = 0 :=
  h.count_eq_zero (by decide)

theorem closed_of_plain {text : String} (h : Plain text) : closed text.toList = 0 :=
  h.count_eq_zero (by decide)

/-- A line of a mark, plain text and a tail sees the braces of the mark and of the tail. -/
theorem reads_of_parts (mark : String) {text : String} (tail : String) {c : Char}
    {rest : List Char} {opens closes : Nat} (hmark : mark.toList = c :: rest)
    (hc : isBlank c = false) (htext : Plain text) (htail : EndsClear tail.toList)
    (hopen : opened mark.toList + opened tail.toList = opens)
    (hclose : closed mark.toList + closed tail.toList = closes) :
    Reads (mark ++ text ++ tail) opens closes := by
  have hends := htail.append (mark.toList ++ text.toList)
  constructor
  · simp only [String.toList_append]
    rw [hmark] at hends ⊢
    exact trim_eq_self hc hends
  · simp only [String.toList_append, opened_append, opened_of_plain htext]
    omega
  · simp only [String.toList_append, closed_append, closed_of_plain htext]
    omega

variable (dialect : Dialect)

theorem reads_blank : Reads Line.blank.content 0 0 := ⟨by decide, by decide, by decide⟩

theorem reads_leafLine (statement : Leaf) : Reads (dialect.leafLine statement) 0 0 := by
  cases dialect <;> cases statement <;> exact ⟨by decide, by decide, by decide⟩

theorem reads_elseHead : Reads dialect.elseHead 1 1 := by
  cases dialect <;> exact ⟨by decide, by decide, by decide⟩

theorem reads_blockEnd : Reads dialect.blockEnd 0 1 := by
  cases dialect <;> exact ⟨by decide, by decide, by decide⟩

theorem reads_ifHead (c : Condition) : Reads (dialect.ifHead c) 1 0 :=
  reads_of_parts "if( " " ) \x7b" rfl (by decide) c.plain_text (by decide) rfl rfl

theorem reads_elseIfHead (c : Condition) : Reads (dialect.elseIfHead c) 1 1 :=
  reads_of_parts "\x7d else if( " " ) \x7b" rfl (by decide) c.plain_text (by decide) rfl rfl

theorem reads_classHead {name : String} (h : Plain name) : Reads (dialect.classHead name) 1 0 :=
  reads_of_parts "public class " " \x7b" rfl (by decide) h (by decide) rfl rfl

theorem reads_methodHead {name : String} (h : Plain name) :
    Reads (dialect.methodHead name) 1 0 :=
  reads_of_parts "function " "() : int \x7b" rfl (by decide) h (by decide) rfl rfl

theorem reads_loopHead {counter : String} (h : Plain counter) (start stop : UInt64) :
    Reads (dialect.loopHead counter start stop) 1 0 := by
  have hin : Plain " in " := by decide
  have hdots : Plain ".." := by decide
  have hplain : Plain (counter ++ " in " ++ wordText start ++ ".." ++ wordText stop) := by
    simp only [plain_append, h, plain_wordText, hin, hdots, and_self]
  have hreads : Reads ("for( " ++ (counter ++ " in " ++ wordText start ++ ".." ++
      wordText stop) ++ " ) \x7b") 1 0 :=
    reads_of_parts "for( " " ) \x7b" rfl (by decide) hplain (by decide) rfl rfl
  simpa only [Dialect.loopHead, String.append_assoc] using hreads

theorem reads_returnLine (value : UInt64) : Reads (dialect.returnLine value) 0 0 := by
  have hplain := plain_wordText value
  have hempty : Plain "" := by decide
  have hreads := reads_of_parts "return " (wordText value) rfl (by decide) hempty
    (endsClear_wordText value) (by rw [opened_of_plain hplain]) (by rw [closed_of_plain hplain])
  rwa [String.append_empty] at hreads

theorem endsClear_initializer (i : Initializer) : EndsClear i.text.toList := by
  have hquote : EndsClear "\"".toList := by decide
  cases i with
  | quotedBoolean value =>
    rw [Initializer.text, String.toList_append]
    exact hquote.append _
  | integer value => exact endsClear_wordText value
  | real value => exact endsClear_compactText value
  | quotedName name =>
    rw [Initializer.text, String.toList_append]
    exact hquote.append _

theorem reads_localLine {l : Local} (hname : Plain l.name) (hinitial : Plain l.initial.text) :
    Reads (dialect.localLine l) 0 0 := by
  have hplain : Plain (l.name ++ " = ") := hname.append (by decide)
  have hopen : opened "var ".toList + opened l.initial.text.toList = 0 := by
    rw [opened_of_plain hinitial]
    rfl
  have hclose : closed "var ".toList + closed l.initial.text.toList = 0 := by
    rw [closed_of_plain hinitial]
    rfl
  have hreads := reads_of_parts "var " l.initial.text rfl (by decide) hplain
    (endsClear_initializer l.initial) hopen hclose
  simpa only [Dialect.localLine, String.append_assoc] using hreads

theorem endsClear_defaultLiteral (type : PropertyType) (value : DefaultValue) :
    EndsClear (dialect.defaultLiteral type value).toList := by
  have htype : EndsClear (dialect.typeName type).toList := by
    cases dialect <;> cases type <;> decide
  cases value with
  | ordinal n =>
    rw [Dialect.defaultLiteral]
    split
    · rw [String.toList_append]
      exact htype.append _
    · exact endsClear_wordText n
  | text content =>
    have hquote : EndsClear "\"".toList := by decide
    rw [Dialect.defaultLiteral, Dialect.plainLiteral, String.toList_append]
    · exact hquote.append _
    · simp
  | boolean b =>
    have hbool : EndsClear (boolText b).toList := by
      cases b <;> decide
    exact hbool

/-- A property whose default has no brace opens and closes no block. -/
theorem reads_propertyLine {p : Property}
    (h : Plain (dialect.defaultLiteral p.type p.default)) :
    Reads (dialect.propertyLine p) 0 0 := by
  have hreadonly : Plain (if p.readonly then "readonly " else "") := by
    cases p.readonly <;> decide
  have hfield : Plain "_property" := by decide
  have haccessor : Plain "Property" := by decide
  have hcolon : Plain " : " := by decide
  have has : Plain " as " := by decide
  have hequals : Plain " = " := by decide
  have hplain : Plain (p.fieldName ++ " : " ++ dialect.typeName p.type ++ " as " ++
      (if p.readonly then "readonly " else "") ++ p.accessorName ++ " = ") := by
    simp only [plain_append, Property.fieldName, Property.accessorName, plain_wordText,
      dialect.plain_typeName, hfield, haccessor, hcolon, has, hreadonly, hequals, and_self]
  have hopen : opened "var ".toList +
      opened (dialect.defaultLiteral p.type p.default).toList = 0 := by
    rw [opened_of_plain h]
    rfl
  have hclose : closed "var ".toList +
      closed (dialect.defaultLiteral p.type p.default).toList = 0 := by
    rw [closed_of_plain h]
    rfl
  have hreads := reads_of_parts "var " _ rfl (by decide) hplain
    (endsClear_defaultLiteral dialect p.type p.default) hopen hclose
  simpa only [Dialect.propertyLine, String.append_assoc] using hreads

/-! ## Lines of method bodies -/

/-- A line that neither begins like a class nor like the end of a method. -/
structure BodyLine (content : String) (opens closes : Nat) : Prop
    extends Reads content opens closes where
  notHead : ¬ classMark <+: content.toList
  notReturn : ¬ returnMark <+: content.toList

/-- Text does not begin with a mark that has another first character. -/
theorem not_prefix_of_head {mark text : List Char} {c d : Char} (hmark : mark.head? = some c)
    (htext : text.head? = some d) (h : c ≠ d) : ¬ mark <+: text := by
  rintro ⟨rest, rfl⟩
  rw [List.head?_append, hmark] at htext
  exact h (Option.some.inj htext)

/-- A line whose first character is neither that of classes nor that of the end of a method. -/
theorem bodyLine_of_head {content : String} {opens closes : Nat} {d : Char}
    (hreads : Reads content opens closes) (hhead : content.toList.head? = some d)
    (hclass : 'p' ≠ d) (hreturn : 'r' ≠ d) : BodyLine content opens closes :=
  ⟨hreads, not_prefix_of_head rfl hhead hclass, not_prefix_of_head rfl hhead hreturn⟩

theorem bodyLine_blank : BodyLine Line.blank.content 0 0 :=
  ⟨reads_blank, by decide, by decide⟩

theorem bodyLine_leafLine (statement : Leaf) : BodyLine (dialect.leafLine statement) 0 0 := by
  refine ⟨reads_leafLine dialect statement, ?_, ?_⟩ <;>
    cases dialect <;> cases statement <;> decide

theorem bodyLine_elseHead : BodyLine dialect.elseHead 1 1 :=
  bodyLine_of_head (reads_elseHead dialect) (by simp [Dialect.elseHead]; rfl) (by decide)
    (by decide)

theorem bodyLine_blockEnd : BodyLine dialect.blockEnd 0 1 :=
  bodyLine_of_head (reads_blockEnd dialect) (by simp [Dialect.blockEnd]; rfl) (by decide)
    (by decide)

theorem bodyLine_ifHead (c : Condition) : BodyLine (dialect.ifHead c) 1 0 :=
  bodyLine_of_head (reads_ifHead dialect c) (by simp [Dialect.ifHead]; rfl) (by decide)
    (by decide)

theorem bodyLine_elseIfHead (c : Condition) : BodyLine (dialect.elseIfHead c) 1 1 :=
  bodyLine_of_head (reads_elseIfHead dialect c) (by simp [Dialect.elseIfHead]; rfl) (by decide)
    (by decide)

theorem bodyLine_loopHead {counter : String} (h : Name.IsWord counter) (start stop : UInt64) :
    BodyLine (dialect.loopHead counter start stop) 1 0 :=
  bodyLine_of_head (reads_loopHead dialect h.plain start stop) (by simp [Dialect.loopHead]; rfl)
    (by decide) (by decide)

theorem bodyLine_localLine {l : Local} (h : l.Regular) :
    BodyLine (dialect.localLine l) 0 0 :=
  bodyLine_of_head (reads_localLine dialect h.name.plain h.initial.plain_text)
    (by simp [Dialect.localLine]; rfl) (by decide) (by decide)

end Outline

end ClassMill
