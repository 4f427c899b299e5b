import ClassMill.Proofs.Text.Token

/-!
# Conditions read back from their text

The text of a condition can be split in one way only: booleans and combiners are told apart by
their first letters, a comparison ends at its closing parenthesis, and a clause ends at a space
or at the end of the condition.
-/

namespace ClassMill

theorem boolText_append_inj {a b : Bool} {r s : List Char}
    (h : (boolText a).toList ++ r = (boolText b).toList ++ s) : a = b ∧ r = s := by
  cases a <;> cases b <;> simp [boolText] at h ⊢ <;> exact h

theorem Combiner.text_append_inj {a b : Combiner} {r s : List Char}
    (h : a.text.toList ++ r = b.text.toList ++ s) : a = b ∧ r = s := by
  cases a <;> cases b <;> simp [Combiner.text] at h ⊢ <;> exact h

theorem Equality.text_append_inj {a b : Equality} {r s : List Char}
    (h : a.text.toList ++ r = b.text.toList ++ s) : a = b ∧ r = s := by
  cases a <;> cases b <;> simp [Equality.text] at h ⊢ <;> exact h

theorem Relation.text_injective {a b : Relation} (h : a.text.toList = b.text.toList) : a = b := by
  cases a <;> cases b <;> simp [Relation.text] at h ⊢

/-- An operator is ended by a space, since one operator may begin another. -/
theorem Relation.text_append_inj {a b : Relation} {r s : List Char}
    (h : a.text.toList ++ ' ' :: r = b.text.toList ++ ' ' :: s) : a = b ∧ r = s := by
  have hrun : ∀ (op : Relation), ∀ c ∈ op.text.toList, (c != ' ') = true := by
    intro op
    exact List.all_eq_true.mp (by cases op <;> decide)
  obtain ⟨hop, hrest⟩ := Text.append_inj_of_ended (hrun a) (hrun b) (by simp) (by simp) h
  exact ⟨Relation.text_injective hop, by simpa using hrest⟩

/-- The first character of a boolean is no digit. -/
theorem digits_append_ne_boolText {n : UInt64} {b : Bool} {r s : List Char} :
    Nat.toDigits 10 n.toNat ++ r ≠ (boolText b).toList ++ s := by
  cases b with
  | false => exact Text.digits_ne_cons (by decide) _ _
  | true => exact Text.digits_ne_cons (by decide) _ _

namespace Atom

/-- An atom is determined by any text that it begins, and so is the rest of the text. -/
theorem text_append_inj {a b : Atom} {r s : List Char}
    (h : a.text.toList ++ r = b.text.toList ++ s) : a = b ∧ r = s := by
  cases a with
  | literal v =>
    cases b with
    | literal w =>
      obtain ⟨rfl, hrest⟩ := boolText_append_inj h
      exact ⟨rfl, hrest⟩
    | booleans l op r' => cases v <;> simp [text, boolText] at h
    | integers l op r' => cases v <;> simp [text, boolText] at h
  | booleans l op r' =>
    cases b with
    | literal w => cases w <;> simp [text, boolText] at h
    | booleans l₂ op₂ r₂ =>
      simp only [text, String.toList_append, List.append_assoc, List.append_cancel_left_eq] at h
      obtain ⟨rfl, hop⟩ := boolText_append_inj h
      obtain ⟨rfl, hright⟩ := Equality.text_append_inj (List.append_cancel_left hop)
      obtain ⟨rfl, hend⟩ := boolText_append_inj (List.append_cancel_left hright)
      exact ⟨rfl, List.append_cancel_left hend⟩
    | integers l₂ op₂ r₂ =>
      simp only [text, String.toList_append, List.append_assoc, List.append_cancel_left_eq,
        Text.toList_wordText] at h
      exact absurd h.symm digits_append_ne_boolText
  | integers l op r' =>
    cases b with
    | literal w => cases w <;> simp [text, boolText] at h
    | booleans l₂ op₂ r₂ =>
      simp only [text, String.toList_append, List.append_assoc, List.append_cancel_left_eq,
        Text.toList_wordText] at h
      exact absurd h digits_append_ne_boolText
    | integers l₂ op₂ r₂ =>
      simp only [text, String.toList_append, List.append_assoc, List.append_cancel_left_eq,
        Text.toList_wordText] at h
      obtain ⟨rfl, hop⟩ := Text.wordText_append_inj (by simp) (by simp) h
      obtain ⟨rfl, hright⟩ := Relation.text_append_inj (List.append_cancel_left hop)
      obtain ⟨rfl, hend⟩ := Text.wordText_append_inj (by simp) (by simp) hright
      exact ⟨rfl, List.append_cancel_left hend⟩

/-- No atom begins like the word of negation. -/
theorem text_append_ne_not (a : Atom) (r s : List Char) :
    a.text.toList ++ r ≠ "not ".toList ++ s := by
  cases a with
  | literal v => cases v <;> simp [text, boolText]
  | booleans l op r' => simp [text]
  | integers l op r' => simp [text]

end Atom

/-- A clause is determined by any text that it begins, and so is the rest of the text. -/
theorem Clause.text_append_inj {a b : Clause} {r s : List Char}
    (h : a.text.toList ++ r = b.text.toList ++ s) : a = b ∧ r = s := by
  obtain ⟨negated, a⟩ := a
  obtain ⟨negated', b⟩ := b
  cases negated with
  | false =>
    cases negated' with
    | false =>
      obtain ⟨rfl, hrest⟩ := Atom.text_append_inj h
      exact ⟨rfl, hrest⟩
    | true =>
      simp only [text, if_true, String.toList_append, List.append_assoc] at h
      exact absurd h (Atom.text_append_ne_not a r _)
  | true =>
    cases negated' with
    | false =>
      simp only [text, if_true, String.toList_append, List.append_assoc] at h
      exact absurd h.symm (Atom.text_append_ne_not b s _)
    | true =>
      simp only [text, if_true, String.toList_append, List.append_assoc,
        List.append_cancel_left_eq] at h
      obtain ⟨rfl, hrest⟩ := Atom.text_append_inj h
      exact ⟨rfl, hrest⟩

namespace Condition

/-- The characters of a condition: its first clause, then the joined ones in order. -/
theorem toList_text (c : Condition) :
    c.text.toList = c.first.text.toList ++ c.rest.flatMap fun joined =>
      (joinedText joined).toList := by
  obtain ⟨first, rest⟩ := c
  have hfold : ∀ (joined : List (Combiner × Clause)) (s : String),
      (joined.foldl (fun s joined => s ++ joinedText joined) s).toList =
        s.toList ++ joined.flatMap fun joined => (joinedText joined).toList := by
    intro joined
    induction joined with
    | nil => simp
    | cons j joined ih => simp [ih]
  exact hfold rest _

/-- A joined clause is determined by any text that it begins, and so is the rest. -/
theorem joinedText_append_inj {a b : Combiner × Clause} {r s : List Char}
    (h : (joinedText a).toList ++ r = (joinedText b).toList ++ s) : a = b ∧ r = s := by
  obtain ⟨combiner, clause⟩ := a
  obtain ⟨combiner', clause'⟩ := b
  simp only [joinedText, String.toList_append, List.append_assoc, List.append_cancel_left_eq] at h
  obtain ⟨rfl, hclause⟩ := Combiner.text_append_inj h
  obtain ⟨rfl, hrest⟩ := Clause.text_append_inj (List.append_cancel_left hclause)
  exact ⟨rfl, hrest⟩

theorem flatMap_joinedText_injective {a b : List (Combiner × Clause)}
    (h : (a.flatMap fun joined => (joinedText joined).toList) =
      b.flatMap fun joined => (joinedText joined).toList) : a = b := by
  induction a generalizing b with
  | nil =>
    cases b with
    | nil => rfl
    | cons j b => simp [joinedText] at h
  | cons i a ih =>
    cases b with
    | nil => simp [joinedText] at h
    | cons j b =>
      obtain ⟨rfl, hrest⟩ := joinedText_append_inj (by simpa only [List.flatMap_cons] using h)
      rw [ih hrest]

/-- Different conditions have different texts. -/
theorem eq_of_text_eq {c d : Condition} (h : c.text = d.text) : c = d := by
  have hchars := congrArg String.toList h
  rw [toList_text, toList_text] at hchars
  obtain ⟨hfirst, hrest⟩ := Clause.text_append_inj hchars
  obtain ⟨first, rest⟩ := c
  obtain ⟨first', rest'⟩ := d
  rw [Condition.mk.injEq]
  exact ⟨hfirst, flatMap_joinedText_injective hrest⟩

end Condition

end ClassMill
