import ClassMill.Proofs.Tree.Condition

/-!
# Clauses in the text of a condition

The words that join clauses stand outside of parentheses with a space on either side, and no clause
has such a word in it: spaces outside of parentheses follow a negation only. So the text of a
condition is cut at these words into the texts of its clauses.
-/

namespace ClassMill

namespace Text

/-- The number of open parentheses after a character. -/
def openAfter (depth : Nat) : Char → Nat
  | '(' => depth + 1
  | ')' => depth - 1
  | _ => depth

/-- What stands before the first joining word outside of parentheses, and each such word with what
stands between it and the next one. -/
def cut : (depth : Nat) → List Char → List Char × List (Combiner × List Char)
  | _, [] => ([], [])
  | 0, ' ' :: 'a' :: 'n' :: 'd' :: ' ' :: text =>
    ([], (.conjunction, (cut 0 text).1) :: (cut 0 text).2)
  | 0, ' ' :: 'o' :: 'r' :: ' ' :: text =>
    ([], (.disjunction, (cut 0 text).1) :: (cut 0 text).2)
  | depth, c :: text =>
    let rest := cut (openAfter depth c) text
    (c :: rest.1, rest.2)

theorem cut_separator (combiner : Combiner) (text : List Char) :
    cut 0 (" ".toList ++ combiner.text.toList ++ " ".toList ++ text) =
      ([], (combiner, (cut 0 text).1) :: (cut 0 text).2) := by
  cases combiner <;> rfl

theorem cut_inside (depth : Nat) (c : Char) (text : List Char) :
    cut (depth + 1) (c :: text) =
      (c :: (cut (openAfter (depth + 1) c) text).1, (cut (openAfter (depth + 1) c) text).2) := by
  rw [cut]
  all_goals simp

theorem cut_of_ne {c : Char} (h : c ≠ ' ') (depth : Nat) (text : List Char) :
    cut depth (c :: text) =
      (c :: (cut (openAfter depth c) text).1, (cut (openAfter depth c) text).2) := by
  rw [cut]
  all_goals simp [h]

theorem cut_space {c : Char} (ha : c ≠ 'a') (ho : c ≠ 'o') (text : List Char) :
    cut 0 (' ' :: c :: text) = (' ' :: (cut 0 (c :: text)).1, (cut 0 (c :: text)).2) := by
  rw [cut]
  · rfl
  all_goals simp [ha, ho]

/-- Text that is not cut, whatever follows it, and after which another number of parentheses is
open. -/
def Uncut (depth next : Nat) (text : List Char) : Prop :=
  ∀ rest, cut depth (text ++ rest) = (text ++ (cut next rest).1, (cut next rest).2)

theorem Uncut.append {depth mid next : Nat} {text more : List Char} (h : Uncut depth mid text)
    (hmore : Uncut mid next more) : Uncut depth next (text ++ more) := by
  intro rest
  rw [List.append_assoc, h, hmore, List.append_assoc]

theorem uncut_open (depth : Nat) : Uncut depth (depth + 1) ['('] := fun rest =>
  cut_of_ne (by decide) depth rest

theorem uncut_close (depth : Nat) : Uncut (depth + 1) depth [')'] := fun rest =>
  cut_of_ne (by decide) (depth + 1) rest

/-- A character that is no parenthesis. -/
def isInner (c : Char) : Bool := c != '(' && c != ')'

theorem openAfter_of_isInner {c : Char} (h : isInner c = true) (depth : Nat) :
    openAfter depth c = depth := by
  rw [isInner, Bool.and_eq_true, bne_iff_ne, bne_iff_ne] at h
  simp [openAfter, h]

/-- Text without parentheses is not cut inside of them. -/
theorem uncut_inside (depth : Nat) {text : List Char} (h : ∀ c ∈ text, isInner c = true) :
    Uncut (depth + 1) (depth + 1) text := by
  intro rest
  induction text with
  | nil => rfl
  | cons c text ih =>
    obtain ⟨hc, htext⟩ := List.forall_mem_cons.mp h
    rw [List.cons_append, cut_inside, openAfter_of_isInner hc, ih htext]
    rfl

/-- Text without parentheses and spaces is not cut. -/
theorem uncut_word (depth : Nat) {text : List Char} (h : ∀ c ∈ text, isInner c = true)
    (hspace : ' ' ∉ text) : Uncut depth depth text := by
  intro rest
  induction text with
  | nil => rfl
  | cons c text ih =>
    obtain ⟨hc, htext⟩ := List.forall_mem_cons.mp h
    obtain ⟨hne, hrest⟩ := List.ne_and_not_mem_of_not_mem_cons hspace
    rw [List.cons_append, cut_of_ne hne.symm, openAfter_of_isInner hc, ih htext hrest]
    rfl

end Text

open Text

theorem isInner_of_mem_boolText {b : Bool} : ∀ c ∈ (boolText b).toList, isInner c = true :=
  List.all_eq_true.mp (by cases b <;> decide)

theorem isInner_of_mem_wordText {n : UInt64} : ∀ c ∈ (wordText n).toList, isInner c = true := by
  intro c hc
  rw [toList_wordText] at hc
  rw [isInner, Bool.and_eq_true, bne_iff_ne, bne_iff_ne]
  constructor
  · rintro rfl
    exact not_mem_digits (by decide) hc
  · rintro rfl
    exact not_mem_digits (by decide) hc

/-- A comparison is not cut, since it stands in parentheses. -/
theorem uncut_comparison {left op right : String} (hleft : ∀ c ∈ left.toList, isInner c = true)
    (hop : ∀ c ∈ op.toList, isInner c = true) (hright : ∀ c ∈ right.toList, isInner c = true) :
    Uncut 0 0 ("(" ++ left ++ " " ++ op ++ " " ++ right ++ ")").toList := by
  have hspace : ∀ c ∈ " ".toList, isInner c = true := List.all_eq_true.mp (by decide)
  have hinner : ∀ c ∈ left.toList ++ " ".toList ++ op.toList ++ " ".toList ++ right.toList,
      isInner c = true := by
    simp only [List.forall_mem_append]
    exact ⟨⟨⟨⟨hleft, hspace⟩, hop⟩, hspace⟩, hright⟩
  have huncut := ((uncut_open 0).append (uncut_inside 0 hinner)).append (uncut_close 0)
  simpa using huncut

theorem Atom.uncut_text (a : Atom) : Uncut 0 0 a.text.toList := by
  cases a with
  | literal value =>
    have hspace : ' ' ∉ (boolText value).toList := by cases value <;> decide
    exact uncut_word 0 isInner_of_mem_boolText hspace
  | booleans left op right =>
    have hop : ∀ c ∈ op.text.toList, isInner c = true :=
      List.all_eq_true.mp (by cases op <;> decide)
    exact uncut_comparison isInner_of_mem_boolText hop isInner_of_mem_boolText
  | integers left op right =>
    have hop : ∀ c ∈ op.text.toList, isInner c = true :=
      List.all_eq_true.mp (by cases op <;> decide)
    exact uncut_comparison isInner_of_mem_wordText hop isInner_of_mem_wordText

/-- An atom begins with a parenthesis or as a boolean does. -/
theorem Atom.head_text (a : Atom) : ∃ c text, a.text.toList = c :: text ∧ c ≠ 'a' ∧ c ≠ 'o' := by
  have hcomparison (left op right : String) :
      ∃ text, ("(" ++ left ++ " " ++ op ++ " " ++ right ++ ")").toList = '(' :: text :=
    ⟨(left ++ " " ++ op ++ " " ++ right ++ ")").toList, by simp⟩
  cases a with
  | literal value => cases value <;> exact ⟨_, _, rfl, by decide, by decide⟩
  | booleans left op right =>
    obtain ⟨text, htext⟩ := hcomparison (boolText left) op.text (boolText right)
    exact ⟨'(', text, htext, by decide, by decide⟩
  | integers left op right =>
    obtain ⟨text, htext⟩ := hcomparison (wordText left) op.text (wordText right)
    exact ⟨'(', text, htext, by decide, by decide⟩

theorem Clause.uncut_text (c : Clause) : Uncut 0 0 c.text.toList := by
  obtain ⟨negated, atom⟩ := c
  cases negated with
  | false => exact atom.uncut_text
  | true =>
    have hnot : Uncut 0 0 "not".toList :=
      uncut_word 0 (List.all_eq_true.mp (by decide)) (by decide)
    have hspace : Uncut 0 0 (' ' :: atom.text.toList) := by
      intro rest
      obtain ⟨c, text, htext, ha, ho⟩ := atom.head_text
      have hatom := atom.uncut_text rest
      rw [htext, List.cons_append] at hatom ⊢
      rw [List.cons_append, List.cons_append, cut_space ha ho, hatom]
    simpa [text] using hnot.append hspace

namespace Condition

/-- The joined clauses of a condition are cut at the words that join them. -/
theorem cut_joined (joined : List (Combiner × Clause)) :
    cut 0 (joined.flatMap fun j => (joinedText j).toList) =
      ([], joined.map fun j => (j.1, j.2.text.toList)) := by
  induction joined with
  | nil => rfl
  | cons j joined ih =>
    have htext : (j :: joined).flatMap (fun j => (joinedText j).toList) =
        " ".toList ++ j.1.text.toList ++ " ".toList ++
          (j.2.text.toList ++ joined.flatMap fun j => (joinedText j).toList) := by
      simp [joinedText]
    rw [htext, cut_separator, j.2.uncut_text, ih]
    simp

theorem cut_text (c : Condition) :
    cut 0 c.text.toList =
      (c.first.text.toList, c.rest.map fun j => (j.1, j.2.text.toList)) := by
  rw [toList_text, c.first.uncut_text, cut_joined, List.append_nil]

end Condition

namespace Text

/-- What stands between the joining words of a text that are outside of parentheses. -/
def pieces (text : String) : List String :=
  (((cut 0 text.toList).1 :: (cut 0 text.toList).2.map Prod.snd)).map String.ofList

/-- The combiners of the joining words of a text that are outside of parentheses. -/
def joints (text : String) : List Combiner := (cut 0 text.toList).2.map Prod.fst

end Text

/-- Conditions of one text are equal. The joining words outside of parentheses cut the text of a
condition into as many pieces as it has clauses: the texts of the clauses in order, with their
combiners in between. -/
theorem Condition.pieces_text (c : Condition) :
    (∀ d : Condition, c.text = d.text ↔ c = d) ∧
      (Text.pieces c.text).length = c.size ∧
      Text.pieces c.text = c.first.text :: c.rest.map (fun joined => joined.2.text) ∧
      Text.joints c.text = c.rest.map fun joined => joined.1 := by
  have hpieces :
      Text.pieces c.text = c.first.text :: c.rest.map (fun joined => joined.2.text) := by
    simp [Text.pieces, c.cut_text, Function.comp_def]
  have hjoints : Text.joints c.text = c.rest.map fun joined => joined.1 := by
    simp [Text.joints, c.cut_text, Function.comp_def]
  refine ⟨fun d => ⟨eq_of_text_eq, congrArg text⟩, ?_, hpieces, hjoints⟩
  rw [hpieces, List.length_cons, List.length_map, size]

example : Text.pieces "(true and false) or not x" = ["(true and false)", "not x"] := by
  decide +kernel

end ClassMill
