import ClassMill.Proofs.Ron.Quoted
import ClassMill.Ron.Printer
import Mathlib.Data.Bool.AllAny

/-!
# Texts that spell tokens

A text spells tokens if reading it gives these tokens, in front of those of any text that ends
words and numbers. Words, numbers and quoted texts spell one token each, blanks spell none, and
texts that spell tokens are put together.
-/

namespace ClassMill.Ron

/-- Text that does not begin with a character of words or numbers. -/
def Clear (text : List Char) : Prop := ∀ c ∈ text.head?, Lexer.isRawChar c = false

/-- Reading the text, with at most one step for each character, gives the tokens in front of
those of any clear text that follows. -/
def Spells (text : List Char) (ts : List Token) : Prop :=
  ∀ (steps : Nat) (rest : List Char) (out : List Token), Clear rest →
    Lexer.tokensWithin steps rest = some out →
      Lexer.tokensWithin (steps + text.length) (text ++ rest) = some (ts ++ out)

theorem Clear.append {text rest : List Char} (htext : Clear text) (hrest : Clear rest) :
    Clear (text ++ rest) := by
  cases text with
  | nil => exact hrest
  | cons c text => exact htext

theorem clear_cons {c : Char} (h : Lexer.isRawChar c = false) (text : List Char) :
    Clear (c :: text) := by
  intro d hd
  cases hd
  exact h

namespace Lexer

/-- More steps than are needed change nothing. -/
theorem tokensWithin_mono {steps more : Nat} (h : steps ≤ more) {text : List Char}
    {out : List Token} (hout : tokensWithin steps text = some out) :
    tokensWithin more text = some out := by
  induction steps generalizing more text out with
  | zero =>
    cases text with
    | nil =>
      rw [tokensWithin] at hout ⊢
      exact hout
    | cons c cs => cases hout
  | succ steps ih =>
    obtain ⟨more, rfl⟩ := Nat.exists_eq_add_of_le' (Nat.le_trans (Nat.succ_pos steps) h)
    cases text with
    | nil =>
      rw [tokensWithin] at hout ⊢
      exact hout
    | cons c cs =>
      have hle : steps ≤ more := Nat.le_of_succ_le_succ h
      rw [tokensWithin] at hout ⊢
      cases hstep : step (c :: cs) with
      | none => simp [hstep] at hout
      | some r =>
        obtain ⟨token, rest⟩ := r
        rw [hstep] at hout
        cases token with
        | none => exact ih hle hout
        | some t =>
          obtain ⟨ts, hts, rfl⟩ := Option.map_eq_some_iff.mp hout
          exact Option.map_eq_some_iff.mpr ⟨ts, ih hle hts, rfl⟩

/-- Reading a text whose first step is known goes on with what the step leaves. -/
theorem tokensWithin_step {steps : Nat} {text rest : List Char} {token : Option Token}
    {out : List Token} (hne : text ≠ []) (hstep : step text = some (token, rest))
    (hout : tokensWithin steps rest = some out) :
    tokensWithin (steps + 1) text = some (token.toList ++ out) := by
  obtain ⟨c, cs, rfl⟩ := List.exists_cons_of_ne_nil hne
  rw [tokensWithin, hstep]
  cases token with
  | none => exact hout
  | some t => exact Option.map_eq_some_iff.mpr ⟨out, hout, rfl⟩

end Lexer

namespace Spells

variable {text other : List Char} {ts us : List Token}

theorem nil : Spells [] [] := fun _ _ _ _ hout => by simpa using hout

theorem append (h : Spells text ts) (hother : Spells other us) (hclear : Clear other) :
    Spells (text ++ other) (ts ++ us) := by
  intro steps rest out hrest hout
  have hlast := hother steps rest out hrest hout
  have hfirst := h _ _ _ (hclear.append hrest) hlast
  rwa [List.append_assoc, List.append_assoc, List.length_append, Nat.add_comm text.length,
    ← Nat.add_assoc]

/-- A text that one step reads spells what the step gives. -/
theorem of_step {token : Option Token} (hne : text ≠ [])
    (hstep : ∀ rest, Clear rest → Lexer.step (text ++ rest) = some (token, rest)) :
    Spells text token.toList := by
  intro steps rest out hrest hout
  have hpos : 0 < text.length := List.length_pos_iff.mpr hne
  have hread := Lexer.tokensWithin_step (by simp [hne]) (hstep rest hrest) hout
  exact Lexer.tokensWithin_mono (by omega) hread

/-- A character that one step reads, whatever follows, is put in front of a text. -/
theorem cons {c : Char} {token : Option Token} (h : Spells text ts)
    (hstep : ∀ rest, Lexer.step (c :: (text ++ rest)) = some (token, text ++ rest)) :
    Spells (c :: text) (token.toList ++ ts) := by
  intro steps rest out hrest hout
  have hread := Lexer.tokensWithin_step (List.cons_ne_nil _ _) (hstep rest)
    (h steps rest out hrest hout)
  rwa [List.append_assoc]

theorem blank {c : Char} (hc : Lexer.isBlank c = true) (h : Spells text ts) :
    Spells (c :: text) ts := by
  have hparen : c ≠ '(' := by
    rintro rfl
    exact absurd hc (by decide)
  have hstep : ∀ rest, Lexer.step (c :: (text ++ rest)) = some (none, text ++ rest) := by
    intro rest
    rw [Lexer.step, if_pos hc]
    intro cs heq
    contradiction
  exact h.cons hstep

theorem indentation (level : Nat) (h : Spells text ts) :
    Spells (Ron.indentation level ++ text) ts := by
  unfold Ron.indentation
  induction 4 * level with
  | zero => exact h
  | succ n ih => exact ih.blank (by decide)

/-- A mark spells itself, an opening parenthesis if it is not closed at once. -/
theorem mark_of {c : Char} (hmark : Lexer.isMark c = true)
    (hparen : c = '(' → ∃ d ∈ text.head?, d ≠ ')') (h : Spells text ts) :
    Spells (c :: text) (.mark c :: ts) := by
  obtain ⟨hblank, hslash, hquote, hsingle⟩ : Lexer.isBlank c = false ∧ c ≠ '/' ∧ c ≠ '"' ∧
      c ≠ '\x27' := by
    have hmarks : ∀ c ∈ "()[]\x7b\x7d,:#!".toList, Lexer.isBlank c = false ∧ c ≠ '/' ∧ c ≠ '"' ∧
        c ≠ '\x27' := List.all_iff_forall_prop.mp (by decide)
    exact hmarks c (List.contains_iff_mem.mp hmark)
  have hstep : ∀ rest, Lexer.step (c :: (text ++ rest)) = some (some (.mark c), text ++ rest) := by
    intro rest
    rw [Lexer.step]
    · simp [hblank, hslash, hquote, hsingle, hmark]
    · intro cs hc htext
      obtain ⟨d, hd, hne⟩ := hparen hc
      cases text with
      | nil => cases hd
      | cons e text =>
        cases hd
        injection htext with hclose
        exact hne hclose
  exact h.cons hstep

theorem mark {c : Char} (hmark : Lexer.isMark c = true) (hparen : c ≠ '(')
    (h : Spells text ts) : Spells (c :: text) (.mark c :: ts) :=
  h.mark_of hmark fun hc => absurd hc hparen

theorem parenthesis (hne : ∃ d ∈ text.head?, d ≠ ')') (h : Spells text ts) :
    Spells ('(' :: text) (.mark '(' :: ts) :=
  h.mark_of (by decide) fun _ => hne

end Spells

/-! ## Single tokens -/

/-- Letters that are read as one word. A single letter `r` could begin a raw text. -/
def isLabel (label : String) : Bool :=
  label.toList.head?.any Lexer.isWordStart && label.toList.all Lexer.isWordChar &&
    label != "r"

/-- A spelling that is read as one number. -/
def isNumeral (spelling : String) : Bool :=
  spelling.toList.head?.any Lexer.isNumberStart && spelling.toList.all Lexer.isRawChar &&
    Number.isNumber spelling.toList

/-- Characters of words and numbers are no blanks, quotes, slashes or marks. -/
theorem step_of_isRawChar {c : Char} (h : Lexer.isRawChar c = true) (cs : List Char) :
    Lexer.step (c :: cs) =
      if c = 'r' then Lexer.rToken cs
      else if Lexer.isWordStart c then Lexer.wordToken (c :: cs)
      else if Lexer.isNumberStart c then Lexer.numberToken (c :: cs)
      else none := by
  have hothers : ∀ d ∈ " \t\n\r/\"\x27()[]\x7b\x7d,:#!".toList, Lexer.isRawChar d = false :=
    List.all_iff_forall_prop.mp (by decide)
  have hne : ∀ d ∈ " \t\n\r/\"\x27()[]\x7b\x7d,:#!".toList, c ≠ d := by
    rintro d hd rfl
    simp [hothers c hd] at h
  have hmark : Lexer.isMark c = false := by
    simp only [Lexer.isMark, ← Bool.not_eq_true, List.contains_iff_mem]
    intro hmem
    have hsub : ∀ d ∈ "()[]\x7b\x7d,:#!".toList,
        d ∈ " \t\n\r/\"\x27()[]\x7b\x7d,:#!".toList := List.all_iff_forall_prop.mp (by decide)
    exact hne c (hsub c hmem) rfl
  have hblank : Lexer.isBlank c = false := by
    simp [Lexer.isBlank, hne ' ' (by decide), hne '\t' (by decide), hne '\n' (by decide),
      hne '\r' (by decide)]
  rw [Lexer.step]
  · simp [hblank, hmark, hne '/' (by decide), hne '"' (by decide), hne '\x27' (by decide)]
  · intro _ hparen
    exact absurd hparen (hne '(' (by decide))

/-- A run of characters of one class ends where a text begins that has none at its head. -/
theorem span_append {run : Char → Bool} {text rest : List Char} (htext : ∀ c ∈ text, run c = true)
    (hrest : ∀ c ∈ rest.head?, run c = false) :
    (text ++ rest).takeWhile run = text ∧ (text ++ rest).dropWhile run = rest := by
  rw [List.takeWhile_append_of_pos htext, List.dropWhile_append_of_pos htext]
  cases rest with
  | nil => simp
  | cons c rest =>
    have hc : run c = false := hrest c rfl
    simp [hc]

theorem isRawChar_of_isWordChar {c : Char} (h : Lexer.isWordChar c = true) :
    Lexer.isRawChar c = true := by
  simp [Lexer.isRawChar, h]

theorem Clear.isWordChar_eq_false {rest : List Char} (h : Clear rest) :
    ∀ c ∈ rest.head?, Lexer.isWordChar c = false := by
  intro c hc
  have hraw := h c hc
  rw [← Bool.not_eq_true] at hraw ⊢
  exact fun hword => hraw (isRawChar_of_isWordChar hword)

theorem wordToken_append {letters rest : List Char}
    (h : ∀ c ∈ letters, Lexer.isWordChar c = true) (hrest : Clear rest) :
    Lexer.wordToken (letters ++ rest) =
      some (some (.word (.plain (String.ofList letters))), rest) := by
  obtain ⟨htake, hdrop⟩ := span_append h hrest.isWordChar_eq_false
  have hclear : rest.head?.any Lexer.isRawChar = false := by
    cases rest with
    | nil => rfl
    | cons c rest => exact hrest c rfl
  simp [Lexer.wordToken, htake, hdrop, hclear]

/-- A word spells itself. -/
theorem spells_word {label : String} (h : isLabel label = true) :
    Spells label.toList [.word (.plain label)] := by
  simp only [isLabel, Bool.and_eq_true, List.all_eq_true, bne_iff_ne] at h
  obtain ⟨⟨hstart, hchars⟩, hr⟩ := h
  obtain ⟨c, letters, hlabel⟩ : ∃ c letters, label.toList = c :: letters := by
    cases hlist : label.toList with
    | nil => simp [hlist] at hstart
    | cons c letters => exact ⟨c, letters, rfl⟩
  rw [hlabel] at hstart hchars ⊢
  have hword : Lexer.isWordStart c = true := hstart
  have hraw := isRawChar_of_isWordChar (hchars c List.mem_cons_self)
  have hspelt : String.ofList (c :: letters) = label := by rw [← hlabel, String.ofList_toList]
  have hstep : ∀ rest, Clear rest →
      Lexer.step (c :: letters ++ rest) = some (some (.word (.plain label)), rest) := by
    intro rest hrest
    have htoken := wordToken_append hchars hrest
    rw [hspelt] at htoken
    rw [List.cons_append, step_of_isRawChar hraw]
    split
    · rename_i hfirst
      subst hfirst
      obtain ⟨d, more, hmore⟩ : ∃ d more, letters = d :: more := by
        cases letters with
        | nil => exact absurd hspelt.symm hr
        | cons d more => exact ⟨d, more, rfl⟩
      have hd : Lexer.isWordChar d = true := hchars d (by simp [hmore])
      have hhash : d ≠ '#' := by
        rintro rfl
        exact absurd hd (by decide)
      have hquote : d ≠ '"' := by
        rintro rfl
        exact absurd hd (by decide)
      subst hmore
      simp only [List.cons_append] at htoken ⊢
      simp [Lexer.rToken, hhash, hquote, htoken]
    · exact htoken
  exact .of_step (List.cons_ne_nil c letters) hstep

/-- Numbers do not begin like words. -/
theorem isWordStart_of_isNumberStart {c : Char} (h : Lexer.isNumberStart c = true) :
    Lexer.isWordStart c = false := by
  simp only [Lexer.isNumberStart, Bool.or_eq_true, decide_eq_true_eq] at h
  rcases h with ((hdigit | rfl) | rfl) | rfl
  · have hrange : 48 ≤ c.toNat ∧ c.toNat < 58 := by
      simp only [Char.isDigit, Bool.and_eq_true, decide_eq_true_eq, UInt32.le_iff_toNat_le]
        at hdigit
      exact ⟨hdigit.1, Nat.lt_succ_of_le hdigit.2⟩
    have hdigits : ∀ n < 58, 48 ≤ n → Lexer.isWordStart (Char.ofNat n) = false := by decide
    rw [← Char.ofNat_toNat c]
    exact hdigits c.toNat hrange.2 hrange.1
  all_goals decide

/-- A number spells itself. -/
theorem spells_number {spelling : String} (h : isNumeral spelling = true) :
    Spells spelling.toList [.number spelling] := by
  simp only [isNumeral, Bool.and_eq_true, List.all_eq_true] at h
  obtain ⟨⟨hstart, hchars⟩, hnumber⟩ := h
  obtain ⟨c, digits, hspelling⟩ : ∃ c digits, spelling.toList = c :: digits := by
    cases hlist : spelling.toList with
    | nil => simp [hlist] at hstart
    | cons c digits => exact ⟨c, digits, rfl⟩
  rw [hspelling] at hstart hchars hnumber ⊢
  have hfirst : Lexer.isNumberStart c = true := hstart
  have hspelt : String.ofList (c :: digits) = spelling := by
    rw [← hspelling, String.ofList_toList]
  have hstep : ∀ rest, Clear rest →
      Lexer.step (c :: digits ++ rest) = some (some (.number spelling), rest) := by
    intro rest hrest
    obtain ⟨htake, hdrop⟩ := span_append hchars hrest
    have htoken : Lexer.numberToken (c :: digits ++ rest) =
        some (some (.number spelling), rest) := by
      simp only [Lexer.numberToken, htake, hdrop, hnumber, hspelt, if_true]
    have hword : Lexer.isWordStart c = false := isWordStart_of_isNumberStart hfirst
    have hr : c ≠ 'r' := by
      rintro rfl
      exact absurd hfirst (by decide)
    rw [List.cons_append, step_of_isRawChar (hchars c List.mem_cons_self), if_neg hr, hword,
      if_neg Bool.false_ne_true, if_pos hfirst]
    exact htoken
  exact .of_step (List.cons_ne_nil c digits) hstep

/-- A quoted text spells its content. -/
theorem spells_quoted (content : String) :
    Spells (Text.quoted true content.toList) [.text content] := by
  have hstep : ∀ rest, Clear rest → Lexer.step (Text.quoted true content.toList ++ rest) =
      some (some (.text content), rest) := by
    intro rest _
    have hread : Lexer.step (Text.quoted true content.toList ++ rest) =
        Lexer.textToken (Lexer.quoted .plain
          (content.toList.flatMap (Text.escaped true) ++ '"' :: rest)) := by
      simp [Text.quoted, Lexer.step, Lexer.isBlank]
    rw [hread, Lexer.quoted_flatMap_escaped]
    simp [Lexer.textToken]
  exact .of_step (List.cons_ne_nil _ _) hstep

end ClassMill.Ron
