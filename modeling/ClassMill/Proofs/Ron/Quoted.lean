import ClassMill.Ron.Lexer
import ClassMill.Text.Escape
import Mathlib.Algebra.Group.Nat.Defs
import Mathlib.Tactic.Common

/-!
# Quoted text is read back

Every character between quotes is written as itself or as an escape, and reading takes exactly
what was written for it. Code points are spelt by at most six digits, which is as many as the
reader admits. So a quoted text ends at its closing quote, whatever its content.
-/

namespace ClassMill.Ron.Lexer

/-! ## Code points -/

theorem digitValue?_digitChar {d : Nat} (h : d < 16) :
    Number.digitValue? (Nat.digitChar d) = some d := by
  have hdigits : ∀ d < 16, Number.digitValue? (Nat.digitChar d) = some d := by decide
  exact hdigits d h

/-- Reading another digit of a code point appends it to the value. -/
theorem quoted_code_cons {digits value d : Nat} (hd : d < 16) (hfew : digits < 6)
    (cs : List Char) :
    quoted (.code digits value) (Nat.digitChar d :: cs) =
      quoted (.code (digits + 1) (value * 16 + d)) cs := by
  have hbrace : ∀ d < 16, Nat.digitChar d ≠ '\x7d' := by decide
  have hread : (Escape.code digits value).read (Nat.digitChar d) =
      .wait (.code (digits + 1) (value * 16 + d)) := by
    simp only [Escape.read, if_neg (hbrace d hd), digitValue?_digitChar hd, if_pos hfew]
  rw [quoted, hread]
  simp

/-- Reading the digits of a number appends them to the value, if few enough were read before. -/
theorem quoted_code_toDigits (n : Nat) :
    ∀ (digits value : Nat) (cs : List Char), digits + (Nat.toDigits 16 n).length ≤ 6 →
      quoted (.code digits value) (Nat.toDigits 16 n ++ cs) =
        quoted (.code (digits + (Nat.toDigits 16 n).length)
          (value * 16 ^ (Nat.toDigits 16 n).length + n)) cs := by
  induction n using Nat.strongRecOn with
  | ind n ih =>
    intro digits value cs hfew
    by_cases hsmall : n < 16
    · rw [Nat.toDigits_of_lt_base hsmall] at hfew ⊢
      simp only [List.length_singleton] at hfew
      rw [List.singleton_append, quoted_code_cons hsmall (by omega)]
      simp
    · have hle : 16 ≤ n := Nat.not_lt.mp hsmall
      have hlast : n % 16 < 16 := Nat.mod_lt n (by decide)
      rw [Nat.toDigits_of_base_le (by decide) hle] at hfew ⊢
      simp only [List.length_append, List.length_singleton] at hfew ⊢
      have hvalue : (value * 16 ^ (Nat.toDigits 16 (n / 16)).length + n / 16) * 16 + n % 16 =
          value * 16 ^ ((Nat.toDigits 16 (n / 16)).length + 1) + n := by
        rw [Nat.pow_succ, Nat.add_mul, Nat.mul_assoc, Nat.add_assoc]
        omega
      rw [List.append_assoc, ih (n / 16) (by omega) digits value _ (by omega),
        List.singleton_append, quoted_code_cons hlast (by omega), hvalue, Nat.add_assoc]

/-- Code points have at most six hexadecimal digits. -/
theorem length_toDigits_toNat_le (c : Char) : (Nat.toDigits 16 c.toNat).length ≤ 6 := by
  have hvalid : c.toNat < 0x110000 := by
    rcases c.valid with h | h
    · exact Nat.lt_trans h (by decide)
    · exact h.2
  rw [Nat.length_toDigits_le_iff (by decide) (by decide)]
  exact Nat.lt_trans hvalid (by decide)

theorem scalar_toNat (c : Char) : scalar c.toNat = .produce c := by
  have hvalid : c.toNat < 0xD800 ∨ 0xDFFF < c.toNat ∧ c.toNat < 0x110000 := c.valid
  rw [scalar, if_pos hvalid, Char.ofNat_toNat]

theorem quoted_codePointEscape (c : Char) (cs : List Char) :
    quoted .plain (Text.codePointEscape c ++ cs) =
      (quoted .plain cs).map fun (content, rest) => (c :: content, rest) := by
  have hlength := length_toDigits_toNat_le c
  have hpos : (Nat.toDigits 16 c.toNat).length ≠ 0 := by simp
  have hopen : quoted .plain (Text.codePointEscape c ++ cs) =
      quoted (.code 0 0) (Nat.toDigits 16 c.toNat ++ '\x7d' :: cs) := by
    simp [Text.codePointEscape, quoted, Escape.read, afterBackslash]
  have hclose : (Escape.code (Nat.toDigits 16 c.toNat).length c.toNat).read '\x7d' =
      .produce c := by
    simp only [Escape.read, if_true, if_neg hpos, scalar_toNat]
  rw [hopen, quoted_code_toDigits _ _ _ _ (by omega), Nat.zero_add, Nat.zero_mul, Nat.zero_add,
    quoted, hclose]
  simp

/-! ## Characters -/

/-- A character that is neither a quote nor a backslash stands for itself. -/
theorem quoted_plain_cons {c : Char} (hquote : c ≠ '"') (hbackslash : c ≠ '\\')
    (cs : List Char) :
    quoted .plain (c :: cs) =
      (quoted .plain cs).map fun (content, rest) => (c :: content, rest) := by
  rw [quoted]
  simp [hquote, hbackslash, Escape.read]

/-- Reading what is written for a character gives the character. -/
theorem quoted_escaped (c : Char) (cs : List Char) :
    quoted .plain (Text.escaped true c ++ cs) =
      (quoted .plain cs).map fun (content, rest) => (c :: content, rest) := by
  have hshort : ∀ d, afterBackslash d = .produce c →
      quoted .plain ('\\' :: d :: cs) =
        (quoted .plain cs).map fun (content, rest) => (c :: content, rest) := by
    intro d hd
    simp [quoted, Escape.read, hd]
  unfold Text.escaped
  split
  · next h => exact hshort '0' (by rw [h]; decide)
  split
  · next h => exact hshort 't' (by rw [h]; decide)
  split
  · next h => exact hshort 'r' (by rw [h]; decide)
  split
  · next h => exact hshort 'n' (by rw [h]; decide)
  split
  · next h => exact hshort '"' (by rw [h]; decide)
  split
  · next h => exact hshort '\\' (by rw [h]; decide)
  split
  · next h => exact hshort '\x27' (by rw [show c = '\x27' by simpa using h]; decide)
  split
  · next hquote hbackslash _ _ => exact quoted_plain_cons hquote hbackslash cs
  split
  · exact quoted_codePointEscape c cs
  · next hquote hbackslash _ _ _ => exact quoted_plain_cons hquote hbackslash cs

/-- Reading a written text gives the text, up to its closing quote. -/
theorem quoted_flatMap_escaped (content rest : List Char) :
    quoted .plain (content.flatMap (Text.escaped true) ++ '"' :: rest) = some (content, rest) := by
  induction content with
  | nil => simp [quoted]
  | cons c content ih =>
    rw [List.flatMap_cons, List.append_assoc, quoted_escaped, ih]
    rfl

end ClassMill.Ron.Lexer
