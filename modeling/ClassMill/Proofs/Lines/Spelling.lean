import ClassMill.Proofs.Lines.Content

/-!
# What a single line says

A line of each kind determines the part of the tree that it spells: the names are ended by
characters that no name has, the types of a dialect have different words, and a quoted name
cannot be a boolean since it is not reserved. Floats are determined up to their text.
-/

namespace ClassMill

/-- Initial values that are written alike: floats with one text, otherwise equal values. -/
def Initializer.Alike : Initializer → Initializer → Prop
  | .real x, .real y => Decimal.compactText x = Decimal.compactText y
  | i, j => i = j

/-- Local variables of one name whose initial values are written alike. -/
structure Local.Alike (l m : Local) : Prop where
  name : l.name = m.name
  initial : l.initial.Alike m.initial

theorem Initializer.Alike.text_eq {i j : Initializer} (h : i.Alike j) : i.text = j.text := by
  cases i with
  | quotedBoolean value => exact congrArg text h
  | integer value => exact congrArg text h
  | real x =>
    cases j with
    | real y => exact h
    | quotedBoolean value => cases h
    | integer value => cases h
    | quotedName name => cases h
  | quotedName name => exact congrArg text h

/-! ## Names and numbers -/

/-- Words ended by characters that are no letters agree if the texts that begin with them do. -/
theorem Name.IsWord.append_inj {a b : String} (ha : IsWord a) (hb : IsWord b) {r s : List Char}
    (hr : ∀ c ∈ r.head?, c.isAlpha = false) (hs : ∀ c ∈ s.head?, c.isAlpha = false)
    (h : a.toList ++ r = b.toList ++ s) : a = b ∧ r = s := by
  obtain ⟨hname, hrest⟩ := Text.append_inj_of_ended ha.2 hb.2 hr hs h
  exact ⟨String.toList_injective hname, hrest⟩

/-- No number is written like a float. -/
theorem wordText_ne_compactText (n : UInt64) (x : Float) :
    wordText n ≠ Decimal.compactText x := by
  intro h
  obtain ⟨c, hc, hnot⟩ := (Text.compactText_chars x).2
  rw [← h, Text.toList_wordText] at hc
  simp [Text.isDigit_of_mem_digits hc] at hnot

/-- A float has no quotes. -/
theorem quote_not_mem_compactText (x : Float) : '"' ∉ (Decimal.compactText x).toList := by
  intro hmem
  exact absurd ((Text.compactText_chars x).1 _ hmem) (by decide)

/-- A quoted name that is not reserved is no boolean. -/
theorem boolText_ne_of_not_reserved {name : String} (h : name ∉ Name.reservedWords) (b : Bool) :
    boolText b ≠ name := by
  rintro rfl
  cases b <;> exact h (by decide)

/-! ## Quoted texts -/

theorem quoted_inj {s t : String} (h : "\"" ++ s ++ "\"" = "\"" ++ t ++ "\"") : s = t := by
  have hchars := congrArg String.toList h
  simpa [String.toList_inj] using hchars

theorem quoted_ne_compactText (s : String) (x : Float) :
    "\"" ++ s ++ "\"" ≠ Decimal.compactText x := by
  intro h
  exact quote_not_mem_compactText x (by simp [← h])

theorem quoted_ne_wordText (s : String) (n : UInt64) : "\"" ++ s ++ "\"" ≠ wordText n := by
  intro h
  have hchars := congrArg String.toList h.symm
  have hdigits : Nat.toDigits 10 n.toNat ++ [] = '"' :: (s.toList ++ ['"']) := by
    simpa using hchars
  exact Text.digits_ne_cons (by decide) _ _ hdigits

theorem quoted_ne_boolText (s : String) (b : Bool) : "\"" ++ s ++ "\"" ≠ boolText b := by
  intro h
  have hchars := congrArg String.toList h
  cases b <;> simp [boolText] at hchars

/-- Regular initial values of one text are alike. -/
theorem Initializer.alike_of_text_eq {i j : Initializer} (hi : i.Regular) (hj : j.Regular)
    (h : i.text = j.text) : i.Alike j := by
  cases i with
  | quotedBoolean v =>
    cases j with
    | quotedBoolean w =>
      have hv := quoted_inj h
      cases v <;> cases w <;> simp [boolText] at hv <;> rfl
    | integer w => exact absurd h (quoted_ne_wordText _ w)
    | real y => exact absurd h (quoted_ne_compactText _ y)
    | quotedName name => exact absurd (quoted_inj h) (boolText_ne_of_not_reserved hj.2 v)
  | integer v =>
    cases j with
    | quotedBoolean w => exact absurd h.symm (quoted_ne_wordText _ v)
    | integer w =>
      have hchars := congrArg String.toList h
      simp only [text, Text.toList_wordText] at hchars
      rw [Text.toDigits_toNat_injective hchars]
      rfl
    | real y => exact absurd h (wordText_ne_compactText v y)
    | quotedName name => exact absurd h.symm (quoted_ne_wordText _ v)
  | real x =>
    cases j with
    | quotedBoolean w => exact absurd h.symm (quoted_ne_compactText _ x)
    | integer w => exact absurd h.symm (wordText_ne_compactText w x)
    | real y => exact h
    | quotedName name => exact absurd h.symm (quoted_ne_compactText _ x)
  | quotedName name =>
    cases j with
    | quotedBoolean w => exact absurd (quoted_inj h).symm (boolText_ne_of_not_reserved hi.2 w)
    | integer w => exact absurd h (quoted_ne_wordText _ w)
    | real y => exact absurd h (quoted_ne_compactText _ y)
    | quotedName name' =>
      rw [quoted_inj h]
      rfl

/-! ## Lines -/

namespace Dialect

variable {dialect : Dialect}

theorem packageLine_inj {a b : String} (h : dialect.packageLine a = dialect.packageLine b) :
    a = b := by
  have hchars := congrArg String.toList h
  cases dialect <;> simpa [packageLine, String.toList_inj] using hchars

theorem classHead_inj {a b : String} (h : dialect.classHead a = dialect.classHead b) : a = b := by
  have hchars := congrArg String.toList h
  simpa [classHead, String.toList_inj] using hchars

theorem methodHead_inj {a b : String} (h : dialect.methodHead a = dialect.methodHead b) :
    a = b := by
  have hchars := congrArg String.toList h
  simpa [methodHead, String.toList_inj] using hchars

theorem leafLine_inj {a b : Leaf} (h : dialect.leafLine a = dialect.leafLine b) : a = b := by
  cases a <;> cases b <;> simp [leafLine] at h ⊢

theorem ifHead_inj {a b : Condition} (h : dialect.ifHead a = dialect.ifHead b) : a = b := by
  have hchars := congrArg String.toList h
  exact Condition.eq_of_text_eq (by simpa [ifHead, String.toList_inj] using hchars)

theorem elseIfHead_inj {a b : Condition} (h : dialect.elseIfHead a = dialect.elseIfHead b) :
    a = b := by
  have hchars := congrArg String.toList h
  exact Condition.eq_of_text_eq (by simpa [elseIfHead, String.toList_inj] using hchars)

theorem returnLine_inj {a b : UInt64} (h : dialect.returnLine a = dialect.returnLine b) :
    a = b := by
  have hchars := congrArg String.toList h
  simp only [returnLine, String.toList_append, Text.toList_wordText] at hchars
  exact Text.toDigits_toNat_injective (List.append_cancel_left hchars)

theorem loopHead_inj {a b : String} (ha : Name.IsWord a) (hb : Name.IsWord b)
    {start start' stop stop' : UInt64}
    (h : dialect.loopHead a start stop = dialect.loopHead b start' stop') :
    a = b ∧ start = start' ∧ stop = stop' := by
  have hchars := congrArg String.toList h
  simp only [loopHead, String.toList_append, List.append_assoc, List.append_cancel_left_eq,
    Text.toList_wordText] at hchars
  obtain ⟨hname, hrange⟩ := ha.append_inj hb (by simp) (by simp) hchars
  obtain ⟨hstart, hrest⟩ :=
    Text.wordText_append_inj (by simp) (by simp) (List.append_cancel_left hrange)
  obtain ⟨hstop, _⟩ := Text.wordText_append_inj (by simp) (by simp) (List.append_cancel_left hrest)
  exact ⟨hname, hstart, hstop⟩

theorem localLine_eq {l m : Local} (h : l.Alike m) :
    dialect.localLine l = dialect.localLine m := by
  rw [localLine, localLine, h.name, h.initial.text_eq]

theorem alike_of_localLine_eq {l m : Local} (hl : l.Regular) (hm : m.Regular)
    (h : dialect.localLine l = dialect.localLine m) : l.Alike m := by
  have hchars := congrArg String.toList h
  simp only [localLine, String.toList_append, List.append_assoc,
    List.append_cancel_left_eq] at hchars
  obtain ⟨hname, htext⟩ := hl.name.append_inj hm.name (by simp) (by simp) hchars
  refine ⟨hname, Initializer.alike_of_text_eq hl.initial hm.initial ?_⟩
  exact String.toList_injective (List.append_cancel_left htext)

theorem typeName_inj {a b : PropertyType} (ha : a ∈ dialect.propertyTypes)
    (hb : b ∈ dialect.propertyTypes) (h : dialect.typeName a = dialect.typeName b) : a = b := by
  have htypes : ∀ a ∈ dialect.propertyTypes, ∀ b ∈ dialect.propertyTypes,
      dialect.typeName a = dialect.typeName b → a = b := by
    cases dialect <;> decide
  exact htypes a ha b hb h

/-- The default of a number begins with its digits. -/
theorem defaultLiteral_ordinal (dialect : Dialect) (type : PropertyType) (n : UInt64) :
    ∃ r, (dialect.defaultLiteral type (.ordinal n)).toList = Nat.toDigits 10 n.toNat ++ r ∧
      ∀ c ∈ r.head?, c.isDigit = false := by
  simp only [defaultLiteral]
  split
  · refine ⟨(" as " ++ dialect.typeName type).toList, ?_, by simp⟩
    rw [String.append_assoc, String.toList_append, Text.toList_wordText]
  · exact ⟨[], by simp, by simp⟩

/-- No other default is written like that of a number. -/
theorem defaultLiteral_ordinal_ne {type : PropertyType} {n : UInt64} {w : DefaultValue}
    (hw : ∀ m, w ≠ .ordinal m) :
    dialect.defaultLiteral type (.ordinal n) ≠ dialect.defaultLiteral type w := by
  intro h
  obtain ⟨r, hr, -⟩ := defaultLiteral_ordinal dialect type n
  rw [h] at hr
  cases w with
  | ordinal m => exact hw m rfl
  | text content =>
    have hquote : Nat.toDigits 10 n.toNat ++ r = '"' :: (content.toList ++ ['"']) := by
      rw [← hr]
      simp [defaultLiteral, plainLiteral]
    exact Text.digits_ne_cons (by decide) _ _ hquote
  | boolean value =>
    have hbool : (boolText value).toList ++ [] = Nat.toDigits 10 n.toNat ++ r := by
      rw [← hr, List.append_nil]
      rfl
    exact digits_append_ne_boolText hbool.symm

theorem defaultLiteral_ordinal_inj {type : PropertyType} {m n : UInt64}
    (h : dialect.defaultLiteral type (.ordinal m) = dialect.defaultLiteral type (.ordinal n)) :
    m = n := by
  obtain ⟨r, hr, hfirst⟩ := defaultLiteral_ordinal dialect type m
  obtain ⟨s, hs, hsecond⟩ := defaultLiteral_ordinal dialect type n
  rw [h, hs] at hr
  exact (Text.wordText_append_inj hfirst hsecond hr.symm).1

/-- Default values that one type writes alike are equal. -/
theorem defaultLiteral_inj {type : PropertyType} {v w : DefaultValue}
    (h : dialect.defaultLiteral type v = dialect.defaultLiteral type w) : v = w := by
  cases v with
  | ordinal n =>
    cases w with
    | ordinal m => rw [defaultLiteral_ordinal_inj h]
    | text content => exact absurd h (defaultLiteral_ordinal_ne (by simp))
    | boolean value => exact absurd h (defaultLiteral_ordinal_ne (by simp))
  | text content =>
    cases w with
    | ordinal m => exact absurd h.symm (defaultLiteral_ordinal_ne (by simp))
    | text content' =>
      have hchars := congrArg String.toList h
      simpa [defaultLiteral, plainLiteral, String.toList_inj] using hchars
    | boolean value => exact absurd h (quoted_ne_boolText content value)
  | boolean value =>
    cases w with
    | ordinal m => exact absurd h.symm (defaultLiteral_ordinal_ne (by simp))
    | text content => exact absurd h.symm (quoted_ne_boolText content value)
    | boolean value' =>
      have hchars := congrArg String.toList h
      cases value <;> cases value' <;>
        simp [defaultLiteral, plainLiteral, boolText] at hchars ⊢

/-- The declaration of a property determines the property, if its type belongs to the dialect. -/
theorem propertyLine_inj {p q : Property} (hp : p.type ∈ dialect.propertyTypes)
    (hq : q.type ∈ dialect.propertyTypes)
    (h : dialect.propertyLine p = dialect.propertyLine q) : p = q := by
  obtain ⟨ordinal, type, readonly, default⟩ := p
  obtain ⟨ordinal', type', readonly', default'⟩ := q
  have hrun : ∀ (t : PropertyType), ∀ c ∈ (dialect.typeName t).toList, (c != ' ') = true := by
    intro t
    exact List.all_eq_true.mp (by cases dialect <;> cases t <;> decide)
  have hchars := congrArg String.toList h
  simp only [propertyLine, Property.fieldName, Property.accessorName, String.toList_append,
    List.append_assoc, List.append_cancel_left_eq, Text.toList_wordText] at hchars
  obtain ⟨rfl, htype⟩ := Text.wordText_append_inj (by simp) (by simp) hchars
  obtain ⟨hname, hreadonly⟩ := Text.append_inj_of_ended (hrun type) (hrun type') (by simp)
    (by simp) (List.append_cancel_left htype)
  obtain rfl := typeName_inj hp hq (String.toList_injective hname)
  have hrest := List.append_cancel_left hreadonly
  have hflag : readonly = readonly' := by
    cases readonly <;> cases readonly' <;> simp at hrest ⊢
  subst hflag
  have hdefault : default = default' := by
    have hliteral := List.append_cancel_left hrest
    simp only [List.append_cancel_left_eq] at hliteral
    exact defaultLiteral_inj (String.toList_injective hliteral)
  rw [hdefault]

end Dialect

end ClassMill
