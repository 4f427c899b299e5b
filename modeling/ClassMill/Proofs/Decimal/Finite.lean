import ClassMill.Decimal.Layout
import ClassMill.Proofs.Text.Token
import Mathlib.Data.Bool.AllAny
import Mathlib.Tactic.Common

/-!
# Finite floats

A float between finite floats is finite, and the value of a finite float is a number. Its text
in the plain layout consists of digits, a point and perhaps a sign in front.
-/

namespace ClassMill.Decimal

open Float.Model

/-- Values that some number bounds from both sides are numbers. -/
theorem isFinite_of_le_of_le {low x high : UnpackedFloat} (hlow : low.le x = true)
    (hhigh : x.le high = true) (hl : low.isFinite = true) (hh : high.isFinite = true) :
    x.isFinite = true := by
  cases x with
  | zero sign => rfl
  | finite sign mantissa exponent hpos => rfl
  | notANumber => cases high <;> cases hhigh
  | infinity sign =>
    cases sign with
    | positive =>
      cases high with
      | notANumber => cases hh
      | infinity sign => cases hh
      | zero sign => cases hhigh
      | finite sign mantissa exponent hpos => cases hhigh
    | negative =>
      cases low with
      | notANumber => cases hl
      | infinity sign => cases hl
      | zero sign => cases hlow
      | finite sign mantissa exponent hpos => cases hlow

/-- Floats between finite floats are finite. -/
theorem isFinite_of_between {low x high : Float} (hlow : low ≤ x) (hhigh : x ≤ high)
    (hl : low.isFinite = true) (hh : high.isFinite = true) : x.isFinite = true :=
  isFinite_of_le_of_le (of_decide_eq_true hlow) (of_decide_eq_true hhigh) hl hh

theorem isNaN_of_isFinite {x : Float} (h : x.isFinite = true) : x.isNaN = false := by
  change x.toModel.unpack.isFinite = true at h
  change x.toModel.unpack.isNaN = false
  cases hx : x.toModel.unpack with
  | notANumber =>
    rw [hx] at h
    cases h
  | infinity sign => rfl
  | zero sign => rfl
  | finite sign mantissa exponent hpos => rfl

/-- The exponent field of a finite float is not full. -/
theorem exponent_ne_of_isFinite {x : Float} (h : x.isFinite = true) :
    (x.toBits.toNat >>> 52) % (1 <<< 11) ≠ 2047 := by
  intro hfull
  have hexponent : @UnpackedFloat.unpackExponent Format.binary64 x.toModel.toBits.toBitVec =
      -1#11 := by
    apply BitVec.eq_of_toNat_eq
    rw [UnpackedFloat.unpackExponent, BitVec.toNat_cast, BitVec.extractLsb_toNat]
    exact hfull
  have hnot : x.isFinite = false := by
    change (UnpackedFloat.unpack Format.binary64 x.toModel.toBits.toBitVec).isFinite = false
    delta UnpackedFloat.unpack
    dsimp only
    rw [if_pos hexponent]
    split <;> rfl
  simp [hnot] at h

/-- The value of a finite float is a number. -/
theorem ofFloat_of_isFinite {x : Float} (h : x.isFinite = true) :
    ∃ negative mantissa exponent, Binary.ofFloat x = .finite negative mantissa exponent := by
  unfold Binary.ofFloat Binary.ofBits
  rw [if_neg (exponent_ne_of_isFinite h)]
  split
  · exact ⟨_, _, _, rfl⟩
  · exact ⟨_, _, _, rfl⟩

/-! ## Plain text -/

/-- The text of a magnitude consists of digits and a point. -/
theorem plain_magnitude_chars {mantissa : Nat} {exponent : Int} {c : Char}
    (h : c ∈ Layout.plain.magnitude mantissa exponent) : c.isDigit = true ∨ c = '.' := by
  unfold Layout.magnitude at h
  split at h
  · have hzero : ∀ c ∈ ['0', '.', '0'], c.isDigit = true ∨ c = '.' :=
      List.all_iff_forall_prop.mp (by decide)
    exact hzero c h
  · rcases Text.mem_positional h with hdigit | rfl | rfl
    · exact .inl (Text.isDigit_of_mem_digits hdigit)
    · exact .inl rfl
    · exact .inr rfl

theorem point_mem_plain_magnitude (mantissa : Nat) (exponent : Int) :
    '.' ∈ Layout.plain.magnitude mantissa exponent := by
  unfold Layout.magnitude
  split
  · decide
  · exact Text.point_mem_positional _ _

/-- The text of a finite float consists of digits, a point and signs. -/
theorem plainText_chars {x : Float} (h : x.isFinite = true) {c : Char} (hc : c ∈ plainText x) :
    c.isDigit = true ∨ c = '.' ∨ c = '-' := by
  obtain ⟨negative, mantissa, exponent, hx⟩ := ofFloat_of_isFinite h
  rw [plainText, hx, Layout.spell] at hc
  rcases List.mem_append.mp hc with hsign | hmagnitude
  · cases negative with
    | false => cases hsign
    | true => exact .inr (.inr (List.mem_singleton.mp hsign))
  · rcases plain_magnitude_chars hmagnitude with hdigit | hpoint
    · exact .inl hdigit
    · exact .inr (.inl hpoint)

theorem plainText_ne_nil {x : Float} (h : x.isFinite = true) : plainText x ≠ [] := by
  obtain ⟨negative, mantissa, exponent, hx⟩ := ofFloat_of_isFinite h
  have hpoint : '.' ∈ plainText x := by
    rw [plainText, hx]
    exact List.mem_append_right _ (point_mem_plain_magnitude mantissa exponent)
  exact List.ne_nil_of_mem hpoint

end ClassMill.Decimal
