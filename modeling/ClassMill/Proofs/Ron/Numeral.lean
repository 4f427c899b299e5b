import ClassMill.Proofs.Decimal.Finite
import ClassMill.Proofs.Ron.Spelling

/-!
# Numbers are read back

A natural number, an integer and a finite float are spelt as one number each. Reading the
spelling gives natural numbers and integers within their bounds again, and so it does for floats
whose plain text denotes the float itself.
-/

namespace ClassMill.Ron

namespace Number

/-! ## Natural numbers -/

theorem digitValue?_of_isDigit {c : Char} (h : c.isDigit = true) :
    digitValue? c = some (c.toNat - '0'.toNat) := by
  rw [digitValue?, if_pos h]

theorem digit_lt_ten {c : Char} (h : c.isDigit = true) : c.toNat - '0'.toNat < 10 := by
  have hhigh : c.toNat ≤ 57 := by
    simp only [Char.isDigit, Bool.and_eq_true, decide_eq_true_eq, UInt32.le_iff_toNat_le] at h
    exact h.2
  have hzero : '0'.toNat = 48 := rfl
  omega

theorem ne_underscore_of_isDigit {c : Char} (h : c.isDigit = true) : c ≠ '_' := by
  rintro rfl
  exact absurd h (by decide)

/-- Decimal digits continue a number as they do in any decimal spelling. -/
theorem continueDigits_of_isDigit {digits : List Char} (h : ∀ c ∈ digits, c.isDigit = true) :
    ∀ n, continueDigits 10 n digits = some (Nat.ofDigitChars 10 digits n) := by
  induction digits with
  | nil => exact fun n => rfl
  | cons c digits ih =>
    intro n
    have hc := h c List.mem_cons_self
    have hdigits := ih fun d hd => h d (List.mem_cons_of_mem c hd)
    rw [continueDigits, if_neg (ne_underscore_of_isDigit hc), digitValue?_of_isDigit hc]
    simp only [if_pos (digit_lt_ten hc)]
    rw [hdigits, Nat.mul_comm]
    rfl

/-- Decimal digits announce no other base. -/
theorem splitBase_of_isDigit {digits : List Char} (h : ∀ c ∈ digits, c.isDigit = true) :
    splitBase digits = (10, digits) := by
  unfold splitBase
  split
  · exact absurd (h 'x' (by simp)) (by decide)
  · exact absurd (h 'b' (by simp)) (by decide)
  · exact absurd (h 'o' (by simp)) (by decide)
  · rfl

theorem readNatural_toDigits (n : Nat) : readNatural (Nat.toDigits 10 n) = some n := by
  have hdigits : ∀ c ∈ Nat.toDigits 10 n, c.isDigit = true :=
    fun _ => Text.isDigit_of_mem_digits
  have hvalue := continueDigits_of_isDigit hdigits 0
  rw [Nat.ofDigitChars_ten_toDigits] at hvalue
  rw [readNatural, splitBase_of_isDigit hdigits]
  cases hlist : Nat.toDigits 10 n with
  | nil => exact absurd hlist Nat.toDigits_ne_nil
  | cons c digits =>
    rw [hlist] at hdigits hvalue
    rw [readDigits, if_neg (ne_underscore_of_isDigit (hdigits c List.mem_cons_self))]
    exact hvalue

theorem readUpTo_toDigits {n limit : Nat} (h : n ≤ limit) :
    readUpTo limit (Nat.toDigits 10 n) = some n := by
  simp [readUpTo, readNatural_toDigits, h]

/-! ## Integers -/

/-- Digits have no sign in front. -/
theorem splitSign_of_isDigit {digits : List Char} (h : ∀ c ∈ digits, c.isDigit = true) :
    Decimal.splitSign digits = (false, digits) := by
  unfold Decimal.splitSign
  split
  · exact absurd (h '-' List.mem_cons_self) (by decide)
  · exact absurd (h '+' List.mem_cons_self) (by decide)
  · rfl

theorem toList_toString_ofNat (n : Nat) :
    (toString (Int.ofNat n)).toList = Nat.toDigits 10 n := Nat.toList_repr

theorem toList_toString_negSucc (n : Nat) :
    (toString (Int.negSucc n)).toList = '-' :: Nat.toDigits 10 (n + 1) := by
  change ("-" ++ Nat.repr (n + 1)).toList = _
  simp

theorem readInteger_toString (n : Int) : readInteger (toString n).toList = some n := by
  cases n with
  | ofNat n =>
    have hdigits : ∀ c ∈ Nat.toDigits 10 n, c.isDigit = true :=
      fun _ => Text.isDigit_of_mem_digits
    rw [toList_toString_ofNat, readInteger, splitSign_of_isDigit hdigits]
    simp [readNatural_toDigits]
  | negSucc n =>
    rw [toList_toString_negSucc, readInteger, Decimal.splitSign]
    simp [readNatural_toDigits, Int.negSucc_eq]

theorem readBetween_toString {low high n : Int} (hlow : low ≤ n) (hhigh : n ≤ high) :
    readBetween low high (toString n).toList = some n := by
  rw [readBetween, readInteger_toString]
  simp [hlow, hhigh]

/-! ## Floats -/

/-- The plain text of a finite float is read like any text of a float. -/
theorem readReal_plainText {x : Float} (h : x.isFinite = true) :
    readReal (Decimal.plainText x) = Decimal.readFloat (Decimal.plainText x) := by
  have hchars : (Decimal.plainText x).all isRealChar = true := by
    rw [List.all_eq_true]
    intro c hc
    rcases Decimal.plainText_chars h hc with hdigit | rfl | rfl
    · simp [isRealChar, hdigit]
    · decide
    · decide
  rw [readReal, hchars]
  simp

end Number

/-! ## Numerals -/

theorem isRawChar_of_isDigit {c : Char} (h : c.isDigit = true) : Lexer.isRawChar c = true := by
  simp [Lexer.isRawChar, Lexer.isWordChar, h]

theorem isNumberStart_of_isDigit {c : Char} (h : c.isDigit = true) :
    Lexer.isNumberStart c = true := by
  simp [Lexer.isNumberStart, h]

/-- Digits, points and minus signs that some type reads are one number. -/
theorem isNumeral_of_chars {spelling : String} (hne : spelling.toList ≠ [])
    (hchars : ∀ c ∈ spelling.toList, c.isDigit = true ∨ c = '.' ∨ c = '-')
    (hnumber : Number.isNumber spelling.toList = true) : isNumeral spelling = true := by
  have hstart : spelling.toList.head?.any Lexer.isNumberStart = true := by
    cases hlist : spelling.toList with
    | nil => exact absurd hlist hne
    | cons c digits =>
      rcases hchars c (by simp [hlist]) with hdigit | rfl | rfl
      · exact isNumberStart_of_isDigit hdigit
      · rfl
      · rfl
  have hraw : spelling.toList.all Lexer.isRawChar = true := by
    rw [List.all_eq_true]
    intro c hc
    rcases hchars c hc with hdigit | rfl | rfl
    · exact isRawChar_of_isDigit hdigit
    · rfl
    · rfl
  simp [isNumeral, hstart, hraw, hnumber]

theorem isNumeral_natural {n : Nat} (h : n < UInt64.size) : isNumeral (toString n) = true := by
  have hspelling : (toString n).toList = Nat.toDigits 10 n := Nat.toList_repr
  apply isNumeral_of_chars
  · rw [hspelling]
    exact Nat.toDigits_ne_nil
  · intro c hc
    rw [hspelling] at hc
    exact .inl (Text.isDigit_of_mem_digits hc)
  · have hread := Number.readUpTo_toDigits (Nat.le_sub_one_of_lt h)
    rw [Number.isNumber, hspelling, hread]
    rfl

theorem isNumeral_integer {n : Int} (hlow : Int64.minValue.toInt ≤ n)
    (hhigh : n ≤ Int64.maxValue.toInt) : isNumeral (toString n) = true := by
  have hchars : (toString n).toList ≠ [] ∧
      ∀ c ∈ (toString n).toList, c.isDigit = true ∨ c = '.' ∨ c = '-' := by
    cases n with
    | ofNat n =>
      rw [Number.toList_toString_ofNat]
      exact ⟨Nat.toDigits_ne_nil, fun c hc => .inl (Text.isDigit_of_mem_digits hc)⟩
    | negSucc n =>
      rw [Number.toList_toString_negSucc]
      refine ⟨List.cons_ne_nil _ _, ?_⟩
      intro c hc
      rcases List.mem_cons.mp hc with rfl | hdigit
      · exact .inr (.inr rfl)
      · exact .inl (Text.isDigit_of_mem_digits hdigit)
  apply isNumeral_of_chars hchars.1 hchars.2
  rw [Number.isNumber, Number.readBetween_toString hlow hhigh, Option.isSome_some, Bool.or_true]
  rfl

theorem isNumeral_float {x : Float} (h : x.isFinite = true)
    (hread : Decimal.readFloat (Decimal.plainText x) = some x) :
    isNumeral (String.ofList (Decimal.plainText x)) = true := by
  apply isNumeral_of_chars
  · simpa using Decimal.plainText_ne_nil h
  · intro c hc
    rw [String.toList_ofList] at hc
    exact Decimal.plainText_chars h hc
  · simp [Number.isNumber, Number.readReal_plainText h, hread]

end ClassMill.Ron
