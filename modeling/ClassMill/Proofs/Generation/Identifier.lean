import ClassMill.Proofs.Random.Range
import ClassMill.Proofs.Tree.Regular

/-!
# Drawn identifiers

An identifier is a word of letters that is not reserved, with the ending of its kind. Drawing
one has no fault exactly if its letters and the method ending fit into storage together.
-/

namespace ClassMill.Name

open ClassMill.Random

/-! ## Words -/

theorem isAlpha_of_mem_leadingLetters {kind : NameKind} {c : Char}
    (h : c ∈ leadingLetters kind) : c.isAlpha = true := by
  have hletters : ∀ kind, ∀ c ∈ leadingLetters kind, c.isAlpha = true := by
    intro kind
    exact List.all_eq_true.mp (by cases kind <;> decide)
  exact hletters kind c h

theorem isAlpha_of_mem_letters {c : Char} (h : c ∈ smallLetters ++ capitalLetters) :
    c.isAlpha = true := by
  have hletters : ∀ c ∈ smallLetters ++ capitalLetters, c.isAlpha = true :=
    List.all_eq_true.mp (by decide)
  exact hletters c h

/-- The letters that may stand first have the case of the kind. -/
theorem case_of_mem_leadingLetters {kind : NameKind} {c : Char} (h : c ∈ leadingLetters kind) :
    c.isUpper = kind.capitalised ∧ c.isLower = !kind.capitalised := by
  have hletters : ∀ kind, (leadingLetters kind).all (fun c =>
      c.isUpper = kind.capitalised ∧ c.isLower = !kind.capitalised) = true := by
    intro kind
    cases kind <;> decide
  exact of_decide_eq_true (List.all_eq_true.mp (hletters kind) c h)

theorem letter_yields {alphabet : List Char} (h : alphabet ≠ []) :
    (letter alphabet).Yields (· ∈ alphabet) := by
  refine (Draw.choose_yields h).bind fun r hr => Draw.yields_pure ?_
  obtain ⟨c, hc, rfl⟩ := hr
  exact hc

theorem letters_ne_nil : smallLetters ++ capitalLetters ≠ [] := by decide

theorem leadingLetters_ne_nil (kind : NameKind) : leadingLetters kind ≠ [] := by
  cases kind <;> decide

/-- A run of letters, the first of which has the case that the kind asks for. -/
structure IsStem (kind : NameKind) (length : Nat) (stem : String) : Prop where
  length_eq : stem.length = length
  letters : ∀ c ∈ stem.toList, c.isAlpha = true
  leading : ∀ c ∈ stem.toList.head?, c.isUpper = kind.capitalised ∧ c.isLower = !kind.capitalised

theorem IsStem.isWord {kind : NameKind} {length : Nat} {stem : String}
    (h : IsStem kind length stem) (hlength : 0 < length) : IsWord stem := by
  refine ⟨?_, h.letters⟩
  rintro rfl
  have hempty := h.length_eq
  rw [String.length_empty] at hempty
  omega

/-- A drawn stem is one letter longer than the run of letters after the first. -/
theorem stem_yields (kind : NameKind) (length : Nat) :
    (stem kind length).Yields (IsStem kind (length + 1)) := by
  have hfirst := letter_yields (leadingLetters_ne_nil kind)
  have hletter := letter_yields letters_ne_nil
  refine hfirst.bind fun first hc => (hletter.times length).bind fun rest hrest =>
    Draw.yields_pure ⟨?_, ?_, ?_⟩
  · rw [String.length_ofList, List.length_cons, hrest.1]
  · intro c hmem
    rw [String.toList_ofList] at hmem
    rcases List.mem_cons.mp hmem with rfl | hmem
    · exact isAlpha_of_mem_leadingLetters hc
    · exact isAlpha_of_mem_letters (hrest.2 c hmem)
  · intro c hhead
    rw [String.toList_ofList] at hhead
    cases hhead
    exact case_of_mem_leadingLetters hc

/-- A drawn identifier is a word that is not reserved, with the ending of its kind. -/
theorem identifier_yields (kind : NameKind) (length : UInt64) :
    (identifier kind length).Yields fun name =>
      ∃ stem, IsWord stem ∧ isReserved stem = false ∧ name = stem ++ ending kind := by
  refine (Draw.yields_true _).bind fun _ _ =>
    ((stem_yields kind _).redraw).bind fun name hname => Draw.yields_pure ?_
  obtain ⟨candidate, hstem, hkeep⟩ := hname
  split at hkeep
  · cases hkeep
  · rename_i hreserved
    obtain rfl := Option.some.inj hkeep
    exact ⟨candidate, hstem.isWord (Nat.succ_pos _), by simpa using hreserved, rfl⟩

/-- Whether a name is a reserved word in some case of its letters. -/
def SpellsReserved (name : String) : Prop := ∃ word ∈ reservedWords, lowered word = lowered name

/-- Reserved words are written in small letters. -/
theorem lowered_of_mem_reservedWords {word : String} (h : word ∈ reservedWords) :
    lowered word = word := by
  have hsmall : ∀ word ∈ reservedWords, word.toList.map Char.toLower = word.toList := by decide
  apply String.toList_injective
  rw [lowered, String.toList_map, hsmall word h]

theorem isReserved_iff {name : String} : isReserved name = true ↔ SpellsReserved name := by
  rw [isReserved, List.contains_iff_mem]
  constructor
  · intro h
    exact ⟨lowered name, h, lowered_of_mem_reservedWords h⟩
  · rintro ⟨word, hmem, heq⟩
    rwa [← heq, lowered_of_mem_reservedWords hmem]

/-- A word that is not reserved in any case is none of the reserved words. -/
theorem not_mem_reservedWords {name : String} (h : isReserved name = false) :
    name ∉ reservedWords := by
  intro hmem
  rw [isReserved_iff.mpr ⟨name, hmem, rfl⟩] at h
  cases h

theorem identifier_yields_word (kind : NameKind) (h : kind ≠ .method) (length : UInt64) :
    (identifier kind length).Yields fun name => IsWord name ∧ name ∉ reservedWords := by
  refine (identifier_yields kind length).mono fun name hname => ?_
  obtain ⟨stem, hword, hreserved, rfl⟩ := hname
  have hending : ending kind = "" := by
    cases kind with
    | type => rfl
    | localVariable => rfl
    | loopVariable => rfl
    | method => exact absurd rfl h
  rw [hending, String.append_empty]
  exact ⟨hword, not_mem_reservedWords hreserved⟩

theorem identifier_yields_methodName (length : UInt64) :
    (identifier .method length).Yields IsMethodName := by
  refine (identifier_yields .method length).mono fun name hname => ?_
  obtain ⟨stem, hword, -, rfl⟩ := hname
  exact ⟨stem, hword, rfl⟩

/-! ## Storage -/

/-- Whether storage for a name with the method ending can be reserved. -/
theorem reserveStem_eq_ok_iff {length : UInt64} :
    reserveStem length = .ok () ↔ length.toNat + methodSuffix.length ≤ storageLimit := by
  have hsuffix : (UInt64.ofNat methodSuffix.length).toNat = methodSuffix.length := by decide
  have hlimit : storageLimit < UInt64.size := by decide
  have hsize : UInt64.size = 2 ^ 64 := rfl
  unfold reserveStem checkedAdd
  rw [hsuffix]
  by_cases hfits : length.toNat + methodSuffix.length < UInt64.size
  · have hsum : (length + UInt64.ofNat methodSuffix.length).toNat =
        length.toNat + methodSuffix.length := by
      rw [UInt64.toNat_add, hsuffix, Nat.mod_eq_of_lt (by omega)]
    rw [if_pos hfits]
    simp only [bind, Except.bind, reserve, hsum, Nat.mul_one]
    split <;> simp [*]
  · rw [if_neg hfits]
    constructor
    · intro h
      cases h
    · intro h
      omega

theorem toNat_max_one (length : UInt64) : (max length 1).toNat = max length.toNat 1 := by
  have hone : (1 : UInt64).toNat = 1 := rfl
  rw [UInt64.max_def]
  split <;> rename_i h <;> rw [UInt64.le_iff_toNat_le, hone] at h <;> omega

/-- The letters of an identifier are stored exactly if they fit with the method ending; at least
one letter is drawn, and that much always fits. -/
theorem reserveStem_max_eq_ok_iff {length : UInt64} :
    reserveStem (max length 1) = .ok () ↔
      length.toNat + methodSuffix.length ≤ storageLimit := by
  have hshort : 1 + methodSuffix.length ≤ storageLimit := by decide
  rw [reserveStem_eq_ok_iff, toNat_max_one]
  omega

/-- An identifier is drawn without faults exactly if it fits into storage with the method
ending. -/
theorem identifier_safe_iff {kind : NameKind} {length : UInt64} :
    (identifier kind length).Safe ↔ length.toNat + methodSuffix.length ≤ storageLimit := by
  rw [← reserveStem_max_eq_ok_iff]
  constructor
  · intro h
    cases hreserve : reserveStem (max length 1) with
    | ok u => rfl
    | error reason =>
      have hfault : identifier kind length 0 (.stepper 0 0) = .error (.fault reason) := by
        simp only [identifier, hreserve]
        rfl
      exact absurd hfault (h 0 _ reason)
  · intro h
    have hletter : ∀ alphabet, (letter alphabet).Safe := fun _ =>
      (Draw.choose_safe _).andThen fun _ => Draw.safe_pure _
    have hstem : ∀ n, (stem kind n).Safe := fun n =>
      (hletter _).andThen fun _ => ((hletter _).times n).andThen fun _ => Draw.safe_pure _
    exact (Draw.safe_ofExcept h).andThen fun _ =>
      ((hstem _).redraw).andThen fun _ => Draw.safe_pure _

end ClassMill.Name
