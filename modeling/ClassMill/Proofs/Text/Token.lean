import ClassMill.Decimal.Reader
import ClassMill.Dialect.Lines
import Mathlib.Tactic.Tauto

/-!
# Tokens of written text

Source text is made of runs of characters of one class, each ended by a character of another.
Numbers, floats and names are shown to be such runs, and to determine what they spell.
-/

namespace ClassMill.Text

/-- Two runs of one class that are ended by characters of another agree as soon as the texts
that begin with them do. -/
theorem append_inj_of_ended {run : Char → Bool} {a b r s : List Char}
    (ha : ∀ c ∈ a, run c = true) (hb : ∀ c ∈ b, run c = true)
    (hr : ∀ c ∈ r.head?, run c = false) (hs : ∀ c ∈ s.head?, run c = false)
    (h : a ++ r = b ++ s) : a = b ∧ r = s := by
  rcases List.append_eq_append_iff.mp h with ⟨t, hb', hr'⟩ | ⟨t, ha', hs'⟩
  · cases t with
    | nil =>
      rw [List.append_nil] at hb'
      exact ⟨hb'.symm, hr'⟩
    | cons c t =>
      have hin : run c = true := hb c (by simp [hb'])
      have hout : run c = false := hr c (by simp [hr'])
      simp [hin] at hout
  · cases t with
    | nil =>
      rw [List.append_nil] at ha'
      exact ⟨ha', hs'.symm⟩
    | cons c t =>
      have hin : run c = true := ha c (by simp [ha'])
      have hout : run c = false := hs c (by simp [hs'])
      simp [hin] at hout

/-! ## Numbers -/

@[simp]
theorem toList_wordText (n : UInt64) : (wordText n).toList = Nat.toDigits 10 n.toNat := by
  simp [wordText]

theorem isDigit_of_mem_digits {n : Nat} {c : Char} (h : c ∈ Nat.toDigits 10 n) :
    c.isDigit = true :=
  Nat.isDigit_of_mem_toDigits (by decide) (by decide) h

theorem not_mem_digits {n : Nat} {c : Char} (hc : c.isDigit = false) : c ∉ Nat.toDigits 10 n := by
  intro h
  simp [isDigit_of_mem_digits h] at hc

/-- A number does not begin with a character that is no digit. -/
theorem digits_ne_cons {n : Nat} {c : Char} (hc : c.isDigit = false) (r s : List Char) :
    Nat.toDigits 10 n ++ r ≠ c :: s := by
  intro h
  cases hd : Nat.toDigits 10 n with
  | nil => exact Nat.toDigits_ne_nil hd
  | cons d digits =>
    have hdigit : d.isDigit = true := isDigit_of_mem_digits (n := n) (by simp [hd])
    rw [hd, List.cons_append, List.cons.injEq] at h
    simp [h.1, hc] at hdigit

theorem toDigits_toNat_injective {m n : UInt64}
    (h : Nat.toDigits 10 m.toNat = Nat.toDigits 10 n.toNat) : m = n := by
  have hnat : m.toNat = n.toNat := by
    rw [← Nat.ofDigitChars_ten_toDigits (n := m.toNat), h, Nat.ofDigitChars_ten_toDigits]
  exact UInt64.toNat_inj.mp hnat

/-- A number ended by a character that is no digit is determined by the text it begins. -/
theorem wordText_append_inj {m n : UInt64} {r s : List Char}
    (hr : ∀ c ∈ r.head?, c.isDigit = false) (hs : ∀ c ∈ s.head?, c.isDigit = false)
    (h : Nat.toDigits 10 m.toNat ++ r = Nat.toDigits 10 n.toNat ++ s) : m = n ∧ r = s := by
  obtain ⟨hdigits, hrest⟩ := append_inj_of_ended (fun _ => isDigit_of_mem_digits)
    (fun _ => isDigit_of_mem_digits) hr hs h
  exact ⟨toDigits_toNat_injective hdigits, hrest⟩

/-- Reading the decimal digits of a number gives the number. -/
theorem readNat_toDigits (n : Nat) : Decimal.readNat (Nat.toDigits 10 n) = some n := by
  have hne : Nat.toDigits 10 n ≠ [] := Nat.toDigits_ne_nil
  have hall : (Nat.toDigits 10 n).all Char.isDigit = true := by
    rw [List.all_eq_true]
    exact fun c hc => isDigit_of_mem_digits hc
  have hvalue : Decimal.natOfDigits (Nat.toDigits 10 n) = n := by
    simpa [Decimal.natOfDigits, Nat.ofDigitChars, Nat.mul_comm] using
      Nat.ofDigitChars_ten_toDigits (n := n)
  simp [Decimal.readNat, hne, hall, hvalue]

/-! ## Floats -/

/-- The characters of which the text of a float is made. -/
def isFloatChar (c : Char) : Bool := c.isDigit || ".-eNainf".toList.contains c

theorem isFloatChar_of_isDigit {c : Char} (h : c.isDigit = true) : isFloatChar c = true := by
  simp [isFloatChar, h]

/-- Digits with a point consist of the digits, zeros and the point. -/
theorem mem_positional {digits : List Char} {places : Int} {c : Char}
    (h : c ∈ Decimal.positional digits places) : c ∈ digits ∨ c = '0' ∨ c = '.' := by
  unfold Decimal.positional at h
  split at h
  · simp only [List.mem_cons, List.mem_append, List.mem_replicate] at h
    tauto
  · simp only [List.mem_cons] at h
    tauto
  · split at h
    · simp only [List.mem_cons, List.mem_append, List.mem_replicate, List.not_mem_nil,
        or_false] at h
      tauto
    · simp only [List.mem_cons, List.mem_append] at h
      rcases h with h | h | h
      · exact Or.inl (List.mem_of_mem_take h)
      · exact Or.inr (Or.inr h)
      · exact Or.inl (List.mem_of_mem_drop h)

theorem point_mem_positional (digits : List Char) (places : Int) :
    '.' ∈ Decimal.positional digits places := by
  unfold Decimal.positional
  split
  · simp
  · simp
  · split <;> simp

theorem isFloatChar_of_mem_integerText {n : Int} {c : Char} (h : c ∈ Decimal.integerText n) :
    isFloatChar c = true := by
  have hdigits : ∀ {m : Nat} {d : Char}, d ∈ Decimal.digitsOf m → isFloatChar d = true :=
    fun hd => isFloatChar_of_isDigit (isDigit_of_mem_digits hd)
  cases n with
  | ofNat m => exact hdigits h
  | negSucc m =>
    rcases List.mem_cons.mp h with rfl | h
    · decide
    · exact hdigits h

/-- Scientific text consists of the digits, the point, the mark and the exponent. -/
theorem mem_scientific {digits : List Char} {places : Int} {c : Char}
    (h : c ∈ Decimal.scientific digits places) :
    c ∈ digits ∨ c = '.' ∨ c = 'e' ∨ c ∈ Decimal.integerText (places - 1) := by
  unfold Decimal.scientific at h
  simp only [List.mem_append, List.mem_cons] at h
  rcases h with h | h | h
  · split at h
    · simp only [List.mem_cons] at h ⊢
      tauto
    · exact Or.inl h
  · exact Or.inr (Or.inr (Or.inl h))
  · exact Or.inr (Or.inr (Or.inr h))

theorem mark_mem_scientific (digits : List Char) (places : Int) :
    'e' ∈ Decimal.scientific digits places := by
  simp [Decimal.scientific]

/-- The text of a magnitude consists of float characters, one of which is no digit. -/
theorem magnitude_chars (mantissa : Nat) (exponent : Int) :
    (∀ c ∈ Decimal.Layout.compact.magnitude mantissa exponent, isFloatChar c = true) ∧
      ∃ c ∈ Decimal.Layout.compact.magnitude mantissa exponent, c.isDigit = false := by
  unfold Decimal.Layout.magnitude
  split
  · exact ⟨List.all_eq_true.mp (by decide), '.', by decide, by decide⟩
  · have hdigits : ∀ c ∈ Decimal.digitsOf (Decimal.shortest mantissa exponent).digits,
        isFloatChar c = true := fun c hc =>
      isFloatChar_of_isDigit (isDigit_of_mem_digits hc)
    simp only [Decimal.Layout.place]
    split
    · refine ⟨fun c hc => ?_, '.', point_mem_positional _ _, by decide⟩
      rcases mem_positional hc with h | rfl | rfl
      · exact hdigits c h
      · decide
      · decide
    · refine ⟨fun c hc => ?_, 'e', mark_mem_scientific _ _, by decide⟩
      rcases mem_scientific hc with h | rfl | rfl | h
      · exact hdigits c h
      · decide
      · decide
      · exact isFloatChar_of_mem_integerText h

/-- The text of a float consists of float characters, one of which is no digit. -/
theorem compactText_chars (x : Float) :
    (∀ c ∈ (Decimal.compactText x).toList, isFloatChar c = true) ∧
      ∃ c ∈ (Decimal.compactText x).toList, c.isDigit = false := by
  simp only [Decimal.compactText, String.toList_ofList]
  cases Decimal.Binary.ofFloat x with
  | notANumber => exact ⟨List.all_eq_true.mp (by decide), 'N', by decide, by decide⟩
  | infinite negative =>
    exact ⟨List.all_eq_true.mp (by cases negative <;> decide), 'i',
      by cases negative <;> decide, by decide⟩
  | finite negative mantissa exponent =>
    obtain ⟨hall, c, hc, hnot⟩ := magnitude_chars mantissa exponent
    refine ⟨fun d hd => ?_, c, List.mem_append_right _ hc, hnot⟩
    rcases List.mem_append.mp hd with h | h
    · cases negative <;> simp at h
      subst h
      decide
    · exact hall d h

/-! ## Plain text -/

/-- Characters that neither end a line nor open or close a block. -/
def isPlain (c : Char) : Bool := c != '\n' && c != '\x7b' && c != '\x7d'

/-- Text that neither ends a line nor opens or closes a block. -/
def Plain (text : String) : Prop := ∀ c ∈ text.toList, isPlain c = true

instance (text : String) : Decidable (Plain text) :=
  decidable_of_iff (text.toList.all isPlain = true) List.all_eq_true

theorem plain_append {s t : String} : Plain (s ++ t) ↔ Plain s ∧ Plain t := by
  simp only [Plain, String.toList_append, List.mem_append, or_imp, forall_and]

theorem Plain.append {s t : String} (hs : Plain s) (ht : Plain t) : Plain (s ++ t) :=
  plain_append.mpr ⟨hs, ht⟩

theorem Plain.newline_not_mem {s : String} (h : Plain s) : '\n' ∉ s.toList := fun hmem =>
  absurd (h _ hmem) (by decide)

theorem Plain.count_eq_zero {s : String} (h : Plain s) {c : Char} (hc : isPlain c = false) :
    s.toList.count c = 0 :=
  List.count_eq_zero.mpr fun hmem => by simp [h _ hmem] at hc

/-- A class of characters that has none of the three exceptions is plain. -/
theorem isPlain_of_class {member : Char → Bool} (hbreak : member '\n' = false)
    (hopen : member '\x7b' = false) (hclose : member '\x7d' = false) {c : Char}
    (h : member c = true) : isPlain c = true := by
  have hne : ∀ {d : Char}, member d = false → c ≠ d := by
    rintro d hd rfl
    simp [h] at hd
  simp [isPlain, hne hbreak, hne hopen, hne hclose]

theorem isPlain_of_isAlpha {c : Char} (h : c.isAlpha = true) : isPlain c = true :=
  isPlain_of_class (by decide) (by decide) (by decide) h

theorem isPlain_of_isFloatChar {c : Char} (h : isFloatChar c = true) : isPlain c = true :=
  isPlain_of_class (by decide) (by decide) (by decide) h

theorem plain_toString (n : Nat) : Plain (toString n) := by
  intro c hc
  have hdigit : c ∈ Nat.toDigits 10 n := by simpa using hc
  exact isPlain_of_isFloatChar (isFloatChar_of_isDigit (isDigit_of_mem_digits hdigit))

theorem plain_wordText (n : UInt64) : Plain (wordText n) :=
  plain_toString n.toNat

theorem plain_boolText (b : Bool) : Plain (boolText b) := by
  cases b <;> decide

theorem plain_compactText (x : Float) : Plain (Decimal.compactText x) := fun c hc =>
  isPlain_of_isFloatChar ((compactText_chars x).1 c hc)

end ClassMill.Text
