import ClassMill.Complexity
import ClassMill.Dialect.Basic
import ClassMill.Proofs.Text.Trim
import Mathlib.Data.List.Forall2

/-!
# Variants of a name

Tiers and dialects are asked for by name. A text may ask for one with letters of either case and
with blanks around the name, and for a tier also with dashes in place of underscores. Reading
brings a text to one form and looks that up; here the texts that are read are described without
this form, and every other text is refused as it was given.
-/

namespace ClassMill

namespace Text

/-- The ASCII letters, each small one with its capital. -/
def letterPairs : List (Char × Char) := Name.smallLetters.zip Name.capitalLetters

/-- The same character, or an ASCII letter in its two cases. -/
def SameLetter (c d : Char) : Prop := c = d ∨ (c, d) ∈ letterPairs ∨ (d, c) ∈ letterPairs

instance (c d : Char) : Decidable (SameLetter c d) :=
  inferInstanceAs (Decidable (c = d ∨ (c, d) ∈ letterPairs ∨ (d, c) ∈ letterPairs))

/-- A text is a name with blanks around it, in which other characters may stand for those of the
name. -/
def IsVariant (stands : Char → Char → Prop) (text name : String) : Prop :=
  ∃ before core after : List Char, text.toList = before ++ core ++ after ∧
    (∀ c ∈ before ++ after, isBlank c = true) ∧ List.Forall₂ stands core name.toList

/-! ## The case of letters -/

/-- What holds at each code point of a range holds of every character in it. -/
theorem of_mem_range {p : Char → Prop} {low high : Nat}
    (h : ∀ n ∈ List.range' low (high + 1 - low), p (Char.ofNat n)) {c : Char}
    (hlow : low ≤ c.toNat) (hhigh : c.toNat ≤ high) : p c := by
  have hc := h c.toNat (by rw [List.mem_range'_1]; omega)
  rwa [Char.ofNat_toNat] at hc

theorem sameLetter_toUpper (c : Char) : SameLetter c c.toUpper := by
  by_cases h : 'a'.val ≤ c.val ∧ c.val ≤ 'z'.val
  · have hall : ∀ n ∈ List.range' 97 26, SameLetter (Char.ofNat n) (Char.ofNat n).toUpper := by
      decide
    exact of_mem_range (p := fun c => SameLetter c c.toUpper) hall
      (UInt32.le_iff_toNat_le.mp h.1) (UInt32.le_iff_toNat_le.mp h.2)
  · have hsame : c.toUpper = c := dif_neg h
    exact Or.inl hsame.symm

theorem sameLetter_toLower (c : Char) : SameLetter c c.toLower := by
  by_cases h : 'A'.val ≤ c.val ∧ c.val ≤ 'Z'.val
  · have hall : ∀ n ∈ List.range' 65 26, SameLetter (Char.ofNat n) (Char.ofNat n).toLower := by
      decide
    exact of_mem_range (p := fun c => SameLetter c c.toLower) hall
      (UInt32.le_iff_toNat_le.mp h.1) (UInt32.le_iff_toNat_le.mp h.2)
  · have hsame : c.toLower = c := dif_neg h
    exact Or.inl hsame.symm

namespace SameLetter

variable {c d : Char}

/-- What is alike for a small letter and its capital is alike for characters that are the same
letter. -/
theorem congr {α : Type} {f : Char → α} (hf : ∀ p ∈ letterPairs, f p.1 = f p.2)
    (h : SameLetter c d) : f c = f d := by
  rcases h with rfl | h | h
  · rfl
  · exact hf _ h
  · exact (hf _ h).symm

theorem toLower_eq (h : SameLetter c d) : c.toLower = d.toLower := h.congr (by decide)

theorem isBlank_eq (h : SameLetter c d) : isBlank c = isBlank d := h.congr (by decide)

end SameLetter

/-! ## Normal forms -/

/-- Characters stand for one another if they have one normal form, and none of them is blank unless
all are. -/
structure NormalForm (stands : Char → Char → Prop) (normal : Char → Char) : Prop where
  stands_normal : ∀ c, stands c (normal c)
  normal_eq : ∀ {c d}, stands c d → normal c = normal d
  isBlank_eq : ∀ {c d}, stands c d → isBlank c = isBlank d

theorem normalForm_toLower : NormalForm SameLetter Char.toLower :=
  ⟨sameLetter_toLower, SameLetter.toLower_eq, SameLetter.isBlank_eq⟩

/-- The variants of a name without blanks, in normal form itself, are the texts that have it as
their normal form once the blanks around them are dropped. -/
theorem NormalForm.isVariant_iff {stands : Char → Char → Prop} {normal : Char → Char}
    (h : NormalForm stands normal) {name : String}
    (hname : name.toList.map normal = name.toList) (hclear : true ∉ name.toList.map isBlank)
    (text : String) :
    IsVariant stands text name ↔ String.ofList ((trim text.toList).map normal) = name := by
  constructor
  · rintro ⟨before, core, after, htext, hblank, hcore⟩
    obtain ⟨hbefore, hafter⟩ := List.forall_mem_append.mp hblank
    have hnormal : core.map normal = name.toList.map normal := by
      rw [← List.forall₂_eq_eq_eq, List.forall₂_map_left_iff, List.forall₂_map_right_iff]
      exact hcore.imp fun _ _ => h.normal_eq
    have hblanks : core.map isBlank = name.toList.map isBlank := by
      rw [← List.forall₂_eq_eq_eq, List.forall₂_map_left_iff, List.forall₂_map_right_iff]
      exact hcore.imp fun _ _ => h.isBlank_eq
    have hcoreClear : ∀ c ∈ core, isBlank c = false := by
      rw [← hblanks] at hclear
      simpa using hclear
    rw [htext, trim_append_right hafter, trim_append_left hbefore, trim_of_forall hcoreClear,
      hnormal, hname, String.ofList_toList]
  · rintro rfl
    obtain ⟨before, after, htext, hblank⟩ := exists_eq_append_trim text.toList
    refine ⟨before, trim text.toList, after, htext, hblank, ?_⟩
    rw [String.toList_ofList, List.forall₂_map_right_iff, List.forall₂_same]
    exact fun c _ => h.stands_normal c

end Text

/-! ## Tiers -/

namespace Complexity

open Text

/-- A character of the name of a tier may be given in either case, and an underscore as a dash. -/
def StandsFor (c d : Char) : Prop := SameLetter c d ∨ c = '-' ∧ d = '_'

instance (c d : Char) : Decidable (StandsFor c d) :=
  inferInstanceAs (Decidable (SameLetter c d ∨ c = '-' ∧ d = '_'))

theorem normalForm_normalChar : NormalForm StandsFor normalChar where
  stands_normal c := by
    unfold normalChar
    split
    · next h => exact Or.inr ⟨h, rfl⟩
    · exact Or.inl (sameLetter_toUpper c)
  normal_eq {c d} h := by
    rcases h with h | ⟨rfl, rfl⟩
    · exact h.congr (by decide)
    · decide
  isBlank_eq {c d} h := by
    rcases h with h | ⟨rfl, rfl⟩
    · exact h.isBlank_eq
    · decide

/-- The text asks for the tier. -/
def IsSpelled (tier : Complexity) (text : String) : Prop := IsVariant StandsFor text tier.name

theorem isSpelled_iff (tier : Complexity) (text : String) :
    tier.IsSpelled text ↔ normal text = tier.name :=
  normalForm_normalChar.isVariant_iff (by cases tier <;> decide) (by cases tier <;> decide) text

theorem name_injective {tier other : Complexity} (h : tier.name = other.name) : tier = other := by
  cases tier <;> cases other <;> simp [name] at h ⊢

theorem parse_eq_ok_iff (tier : Complexity) (text : String) :
    parse text = .ok tier ↔ tier.IsSpelled text := by
  have hall : tier ∈ all := by cases tier <;> decide
  rw [isSpelled_iff, parse]
  cases hfind : all.find? fun tier => tier.name = normal text with
  | some found =>
    have hfound : found.name = normal text := by simpa using List.find?_some hfind
    rw [← hfound, Except.ok.injEq]
    exact ⟨congrArg name, name_injective⟩
  | none =>
    have hnone : tier.name ≠ normal text := by simpa using List.find?_eq_none.mp hfind tier hall
    simp [hnone.symm]

theorem eq_of_parse_eq_error {text : String} {reason : Refusal} (h : parse text = .error reason) :
    reason = .unknownComplexity text := by
  unfold parse at h
  split at h
  · cases h
  · exact (Except.error.inj h).symm

end Complexity

/-! ## Dialects -/

namespace Dialect

open Text

/-- The letter that stands for a dialect. -/
def letter : Dialect → String
  | .core => "b"
  | .extended => "a"

/-- The words that ask for a dialect: its name and its letter. -/
def words (dialect : Dialect) : List String := [dialect.name, dialect.letter]

/-- The text asks for the dialect. -/
def IsSpelled (dialect : Dialect) (text : String) : Prop :=
  ∃ word ∈ dialect.words, IsVariant SameLetter text word

theorem isSpelled_iff (dialect : Dialect) (text : String) :
    dialect.IsSpelled text ↔ normal text ∈ dialect.words := by
  have hwords : ∀ word ∈ dialect.words,
      word.toList.map Char.toLower = word.toList ∧ true ∉ word.toList.map isBlank := by
    cases dialect <;> decide
  have hword : ∀ word ∈ dialect.words, (IsVariant SameLetter text word ↔ normal text = word) :=
    fun word hmem => normalForm_toLower.isVariant_iff (hwords word hmem).1 (hwords word hmem).2 text
  constructor
  · rintro ⟨word, hmem, hvariant⟩
    rwa [(hword word hmem).mp hvariant]
  · intro h
    exact ⟨normal text, h, (hword _ h).mpr rfl⟩

theorem parse_eq_ok_iff (dialect : Dialect) (text : String) :
    parse text = .ok dialect ↔ dialect.IsSpelled text := by
  rw [isSpelled_iff, parse]
  split <;> cases dialect <;> simp_all [words, name, letter]

theorem eq_of_parse_eq_error {text : String} {reason : Refusal} (h : parse text = .error reason) :
    reason = .unknownDialect text := by
  unfold parse at h
  split at h <;> cases h
  rfl

end Dialect

/-! ## What is read -/

/-- The result is the value that is spelled. No two values are spelled, and where none is, the
result is a refusal with the given message. -/
structure ReadExactly {α : Type} (spelled : α → Prop) (result : Except Refusal α)
    (reason : Refusal) (message : String) : Prop where
  ok_iff : ∀ a, result = .ok a ↔ spelled a
  unique : ∀ a b, spelled a → spelled b → a = b
  error_iff : result = .error reason ↔ ∀ a, ¬ spelled a
  message_eq : reason.message = message

/-- A reading that gives what is spelled and fails for one reason only. -/
theorem readExactly_of_ok_iff {α : Type} {spelled : α → Prop} {result : Except Refusal α}
    {reason : Refusal} {message : String} (hok : ∀ a, result = .ok a ↔ spelled a)
    (herror : ∀ {other}, result = .error other → other = reason)
    (hmessage : reason.message = message) : ReadExactly spelled result reason message where
  ok_iff := hok
  unique a b ha hb := by
    rw [← hok] at ha hb
    exact Except.ok.inj (ha.symm.trans hb)
  error_iff := by
    constructor
    · intro h a ha
      rw [← hok, h] at ha
      cases ha
    · intro h
      cases hresult : result with
      | ok a => exact absurd ((hok a).mp hresult) (h a)
      | error other => rw [herror hresult]
  message_eq := hmessage

/-- A text is read as a tier exactly if it is a variant of its name, and as a dialect exactly if it
is a variant of its name or of its letter. Any other text is refused, and the message repeats the
text as it was given. -/
theorem parse_readExactly (text : String) :
    ReadExactly (fun tier : Complexity => tier.IsSpelled text) (Complexity.parse text)
        (.unknownComplexity text)
        ("Invalid configuration: unknown complexity preset " ++ text) ∧
      ReadExactly (fun dialect : Dialect => dialect.IsSpelled text) (Dialect.parse text)
        (.unknownDialect text) ("Invalid configuration: unknown dialect " ++ text) := by
  have htier : (Refusal.unknownComplexity text).message =
      "Invalid configuration: " ++ ("unknown complexity preset " ++ text) := rfl
  have hdialect : (Refusal.unknownDialect text).message =
      "Invalid configuration: " ++ ("unknown dialect " ++ text) := rfl
  constructor
  · apply readExactly_of_ok_iff (fun tier => Complexity.parse_eq_ok_iff tier text)
      Complexity.eq_of_parse_eq_error
    rw [htier]
    apply String.toList_injective
    simp
  · apply readExactly_of_ok_iff (fun dialect => Dialect.parse_eq_ok_iff dialect text)
      Dialect.eq_of_parse_eq_error
    rw [hdialect]
    apply String.toList_injective
    simp

/-- Blanks of several kinds, letters of both cases and a dash are read; a sign whose small letter
would be `k` is not. -/
theorem parse_readExactly_padded :
    Complexity.parse "\u00a0\tGordian-kNOT\u2003" = .ok .gordianKnot ∧
      Dialect.parse "\u3000B\n" = .ok .core ∧
      ∀ tier : Complexity, ¬ tier.IsSpelled "GORDIAN_\u212aNOT" := by
  have htier : Complexity.gordianKnot.IsSpelled "\u00a0\tGordian-kNOT\u2003" :=
    ⟨"\u00a0\t".toList, "Gordian-kNOT".toList, "\u2003".toList, by decide,
      List.all_eq_true.mp (by decide), by decide +kernel⟩
  have hdialect : Dialect.core.IsSpelled "\u3000B\n" :=
    ⟨"b", by decide, "\u3000".toList, "B".toList, "\n".toList, by decide,
      List.all_eq_true.mp (by decide), by decide⟩
  have hsign : Complexity.parse "GORDIAN_\u212aNOT" =
    .error (.unknownComplexity "GORDIAN_\u212aNOT") := by decide
  exact ⟨((parse_readExactly _).1.ok_iff _).mpr htier,
    ((parse_readExactly _).2.ok_iff _).mpr hdialect, (parse_readExactly _).1.error_iff.mp hsign⟩

end ClassMill
