import ClassMill.Proofs.Text.Token
import ClassMill.Text.Blank

/-!
# Trimming lines

Trimming drops the blanks around a text and nothing else. Written lines begin with a letter or a
brace and end in one of few ways, so without their indentation they come back from it unchanged.
-/

namespace ClassMill.Text

/-- Printable ASCII characters other than the space are not blank. -/
theorem isBlank_eq_false {c : Char} (hlow : 33 ≤ c.toNat) (hhigh : c.toNat ≤ 126) :
    isBlank c = false := by
  simp only [isBlank, inIntervals, blankIntervals, List.any_cons, List.any_nil, Bool.or_false,
    Bool.or_eq_false_iff, Bool.and_eq_false_iff, decide_eq_false_iff_not]
  omega

theorem isBlank_eq_false_of_isDigit {c : Char} (h : c.isDigit = true) : isBlank c = false := by
  simp only [Char.isDigit, Bool.and_eq_true, decide_eq_true_eq, UInt32.le_iff_toNat_le] at h
  have hlow : 48 ≤ c.toNat := h.1
  have hhigh : c.toNat ≤ 57 := h.2
  exact isBlank_eq_false (by omega) (by omega)

theorem isBlank_eq_false_of_isFloatChar {c : Char} (h : isFloatChar c = true) :
    isBlank c = false := by
  rcases Bool.or_eq_true_iff.mp h with hdigit | hmark
  · exact isBlank_eq_false_of_isDigit hdigit
  · have hmarks : ".-eNainf".toList.all (fun c => !isBlank c) = true := by decide
    simpa using List.all_eq_true.mp hmarks c (by simpa using hmark)

/-- Text whose last character is not blank. -/
def EndsClear (text : List Char) : Prop := ∃ c ∈ text.getLast?, isBlank c = false

instance (text : List Char) : Decidable (EndsClear text) :=
  decidable_of_iff (text.getLast?.any (fun c => !isBlank c) = true) (by
    unfold EndsClear
    cases text.getLast? <;> simp)

theorem EndsClear.append {text : List Char} (h : EndsClear text) (front : List Char) :
    EndsClear (front ++ text) := by
  obtain ⟨c, hlast, hc⟩ := h
  refine ⟨c, ?_, hc⟩
  rw [List.getLast?_append, Option.mem_def.mp hlast]
  rfl

/-- Nonempty text without blanks ends without one. -/
theorem endsClear_of_forall {text : List Char} (hne : text ≠ [])
    (h : ∀ c ∈ text, isBlank c = false) : EndsClear text :=
  ⟨text.getLast hne, List.getLast?_eq_some_getLast hne, h _ (List.getLast_mem hne)⟩

theorem endsClear_wordText (n : UInt64) : EndsClear (wordText n).toList := by
  rw [toList_wordText]
  refine endsClear_of_forall Nat.toDigits_ne_nil fun c hc => ?_
  exact isBlank_eq_false_of_isDigit (isDigit_of_mem_digits hc)

theorem endsClear_compactText (x : Float) : EndsClear (Decimal.compactText x).toList := by
  obtain ⟨hall, c, hc, -⟩ := compactText_chars x
  exact endsClear_of_forall (List.ne_nil_of_mem hc) fun d hd =>
    isBlank_eq_false_of_isFloatChar (hall d hd)

theorem trimStart_cons {c : Char} (h : isBlank c = false) (text : List Char) :
    trimStart (c :: text) = c :: text := by
  simp [trimStart, h]

/-- Trimming drops blanks at the start. -/
theorem trim_append_left {before : List Char} (h : ∀ c ∈ before, isBlank c = true)
    (text : List Char) : trim (before ++ text) = trim text := by
  have hstart : trimStart (before ++ text) = trimStart text := List.dropWhile_append_of_pos h
  rw [trim, hstart, trim]

/-- Trimming drops blanks at the end. -/
theorem trim_append_right {after : List Char} (h : ∀ c ∈ after, isBlank c = true)
    (text : List Char) : trim (text ++ after) = trim text := by
  have hreverse : ∀ c ∈ after.reverse, isBlank c = true := by simpa using h
  unfold trim trimStart
  rw [List.dropWhile_append]
  split
  · next hempty =>
    have hafter : (after ++ []).dropWhile isBlank = [] := List.dropWhile_append_of_pos h
    rw [← List.append_nil after, hafter, List.isEmpty_iff.mp hempty]
  · rw [List.reverse_append, List.dropWhile_append_of_pos hreverse]

/-- Trimming drops indentation. -/
theorem trim_replicate_append (width : Nat) (text : List Char) :
    trim (List.replicate width ' ' ++ text) = trim text := by
  apply trim_append_left
  intro c hc
  rw [List.eq_of_mem_replicate hc]
  decide

/-- Trimming drops nothing but blanks. -/
theorem exists_eq_append_trim (text : List Char) :
    ∃ before after, text = before ++ trim text ++ after ∧
      ∀ c ∈ before ++ after, isBlank c = true := by
  let before := text.takeWhile isBlank
  let after := (trimStart text).reverse.takeWhile isBlank
  have hstart : before ++ trimStart text = text := List.takeWhile_append_dropWhile
  have hend : after ++ trimStart (trimStart text).reverse = (trimStart text).reverse :=
    List.takeWhile_append_dropWhile
  refine ⟨before, after.reverse, ?_, ?_⟩
  · rw [List.append_assoc, trim, ← List.reverse_append, hend, List.reverse_reverse, hstart]
  · intro c hc
    rw [List.mem_append, List.mem_reverse] at hc
    rcases hc with hc | hc
    · exact List.all_eq_true.mp List.all_takeWhile c hc
    · exact List.all_eq_true.mp List.all_takeWhile c hc

/-- Trimming changes nothing in text without blanks at its ends. -/
theorem trim_eq_self {c : Char} {text : List Char} (hfirst : isBlank c = false)
    (hlast : EndsClear (c :: text)) : trim (c :: text) = c :: text := by
  obtain ⟨d, hd, hclear⟩ := hlast
  rw [List.getLast?_eq_head?_reverse] at hd
  rw [trim, trimStart_cons hfirst]
  cases hreverse : (c :: text).reverse with
  | nil => simp at hreverse
  | cons e rest =>
    have hhead : e = d := by simpa [hreverse] using hd
    rw [trimStart_cons (by rw [hhead]; exact hclear), ← hreverse, List.reverse_reverse]

/-- Trimming changes nothing in text without blanks. -/
theorem trim_of_forall {text : List Char} (h : ∀ c ∈ text, isBlank c = false) :
    trim text = text := by
  cases text with
  | nil => rfl
  | cons c text => exact trim_eq_self (h c (by simp)) (endsClear_of_forall (by simp) h)

/-- Trimming text that does not begin with a blank leaves a beginning of it. -/
theorem trim_prefix {c : Char} {text : List Char} (hfirst : isBlank c = false) :
    trim (c :: text) <+: c :: text := by
  rw [trim, trimStart_cons hfirst]
  have hsuffix : trimStart (c :: text).reverse <:+ (c :: text).reverse :=
    List.dropWhile_suffix isBlank
  have hprefix := List.reverse_prefix.mpr hsuffix
  rwa [List.reverse_reverse] at hprefix

end ClassMill.Text
