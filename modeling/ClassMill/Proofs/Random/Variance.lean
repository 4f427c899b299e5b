import ClassMill.Proofs.Random.Range
import ClassMill.Variance

/-!
# Samples of a varied base

A base is moved by a shift, which is a drawn amount in a drawn direction. The shift itself always
fits into a signed word. So a sample is the exact sum of the base and the shift, or a fault where
that sum does not fit, and it is no further from the base than the magnitude.
-/

namespace ClassMill.Variance

open ClassMill.Random

/-- Whether a number fits into a signed word of 64 bits. -/
def Fits (n : Int) : Prop := Int64.minValue.toInt ≤ n ∧ n ≤ Int64.maxValue.toInt

instance (n : Int) : Decidable (Fits n) := inferInstanceAs (Decidable (_ ∧ _))

theorem fits_toInt (n : Int64) : Fits n.toInt := ⟨n.minValue_le_toInt, n.toInt_le⟩

theorem toInt_ofInt_of_fits {n : Int} (h : Fits n) : (Int64.ofInt n).toInt = n :=
  Int64.toInt_ofInt_of_le h.1 (Int.lt_of_le_of_lt h.2 (by decide))

/-- An amount and the direction of a move: `-1`, `0` or `1`. -/
structure Shift where
  amount : Nat
  direction : Int

/-- How far a shift moves a base, exactly. -/
def Shift.distance (s : Shift) : Int := s.amount * s.direction

/-- A shift by at most a number, whose distance fits into a signed word. -/
structure Shift.Within (most : Nat) (s : Shift) : Prop where
  amount : s.amount ≤ most
  direction : s.direction ∈ [-1, 0, 1]
  fits : Fits s.distance

theorem Shift.Within.distance {most : Nat} {s : Shift} (h : s.Within most) :
    -(most : Int) ≤ s.distance ∧ s.distance ≤ most := by
  have hamount := h.amount
  have hdirection := h.direction
  simp only [List.mem_cons, List.not_mem_nil, or_false] at hdirection
  unfold Shift.distance
  rcases hdirection with hdown | hnone | hup
  · rw [hdown]
    omega
  · rw [hnone]
    omega
  · rw [hup]
    omega

/-- Draws the shift of a base. -/
def shift (base : Int64) (percent : Float) : Draw Shift := do
  let amount ← Draw.upTo (magnitude base percent)
  let direction ← Draw.upTo 2
  return ⟨amount, (direction : Int) - 1⟩

variable {base : Int64} {percent : Float}

theorem fits_magnitude (base : Int64) (percent : Float) : Fits (magnitude base percent) := by
  have hle : magnitude base percent ≤ countLimit := Decimal.Binary.floorUpTo_le _ _
  have hlimit : (countLimit : Int) = Int64.maxValue.toInt := rfl
  have hleast : Int64.minValue.toInt ≤ 0 := by decide
  constructor <;> omega

theorem shift_yields (base : Int64) (percent : Float) :
    (shift base percent).Yields (Shift.Within (magnitude base percent)) := by
  refine (Draw.upTo_yields _).bind fun amount hamount => (Draw.upTo_yields 2).bind
    fun direction hdirection => Draw.yields_pure ?_
  have hmost := fits_magnitude base percent
  have hleast : Int64.minValue.toInt = -Int64.maxValue.toInt - 1 := rfl
  obtain rfl | rfl | rfl : direction = 0 ∨ direction = 1 ∨ direction = 2 := by omega
  all_goals
    refine ⟨hamount, by simp, ?_⟩
    unfold Fits at hmost ⊢
    simp only [Shift.distance]
    omega

theorem shift_safe (base : Int64) (percent : Float) : (shift base percent).Safe :=
  (Draw.upTo_safe _).andThen fun _ => (Draw.upTo_safe 2).andThen fun _ => Draw.safe_pure _

/-- A sample is the base moved by a shift, if that fits into a signed word. -/
theorem sample_eq (base : Int64) (percent : Float) :
    sample base percent = shift base percent >>= fun s =>
      if Fits (base.toInt + s.distance) then pure (Int64.ofInt (base.toInt + s.distance))
      else Draw.fault .addOverflow := by
  simp only [shift, bind_assoc, pure_bind]
  rfl

variable {attempts : Nat} {source rest : Source}

theorem sample_eq_ok_iff {value : Int64} :
    sample base percent attempts source = .ok (value, rest) ↔
      ∃ s, shift base percent attempts source = .ok (s, rest) ∧
        value.toInt = base.toInt + s.distance := by
  rw [sample_eq, Draw.bind_eq_ok]
  refine exists_congr fun s => ?_
  by_cases hfits : Fits (base.toInt + s.distance)
  · simp only [if_pos hfits, Draw.pure_apply, Except.ok.injEq, Prod.mk.injEq]
    constructor
    · rintro ⟨mid, hrun, rfl, rfl⟩
      exact ⟨hrun, toInt_ofInt_of_fits hfits⟩
    · rintro ⟨hrun, hvalue⟩
      exact ⟨rest, hrun, by rw [← hvalue, Int64.ofInt_toInt], rfl⟩
  · simp only [if_neg hfits]
    constructor
    · rintro ⟨mid, -, hfault⟩
      cases hfault
    · rintro ⟨-, hvalue⟩
      exact absurd (hvalue ▸ fits_toInt value) hfits

theorem sample_eq_fault_iff {reason : Fault} :
    sample base percent attempts source = .error (.fault reason) ↔
      reason = .addOverflow ∧ ∃ s rest, shift base percent attempts source = .ok (s, rest) ∧
        ¬ Fits (base.toInt + s.distance) := by
  rw [sample_eq, Draw.bind_eq_error]
  constructor
  · rintro (hshift | ⟨s, mid, hrun, hfault⟩)
    · exact absurd hshift (shift_safe base percent _ _ _)
    · by_cases hfits : Fits (base.toInt + s.distance)
      · rw [if_pos hfits] at hfault
        cases hfault
      · rw [if_neg hfits] at hfault
        cases hfault
        exact ⟨rfl, s, mid, hrun, hfits⟩
  · rintro ⟨rfl, s, mid, hrun, hfits⟩
    exact .inr ⟨s, mid, hrun, by rw [if_neg hfits]; rfl⟩

/-- Samples of a base and a percentage, with the magnitude that belongs to them: they fault just
where the base and the drawn shift have a sum that does not fit, and return that sum elsewhere. -/
structure Sampled (base : Int64) (percent : Float) : Prop where
  magnitude_nonneg : 0 ≤ (magnitude base percent : Int)
  magnitude_fits : Fits (magnitude base percent)
  shift_yields : (shift base percent).Yields (Shift.Within (magnitude base percent))
  fault_iff : ∀ attempts source reason,
    sample base percent attempts source = .error (.fault reason) ↔
      reason = .addOverflow ∧ ∃ s rest, shift base percent attempts source = .ok (s, rest) ∧
        ¬ Fits (base.toInt + s.distance)
  ok_iff : ∀ attempts source value rest,
    sample base percent attempts source = .ok (value, rest) ↔
      ∃ s, shift base percent attempts source = .ok (s, rest) ∧
        value.toInt = base.toInt + s.distance
  safe : 0 ≤ base.toInt → base.toInt + magnitude base percent ≤ Int64.maxValue.toInt →
    (sample base percent).Safe
  near : (sample base percent).Yields fun value =>
    base.toInt - magnitude base percent ≤ value.toInt ∧
      value.toInt ≤ base.toInt + magnitude base percent
  still : magnitude base percent = 0 → (sample base percent).Yields (· = base)

/-- A sample keeps to the magnitude on both sides of the base. -/
theorem sample_yields (base : Int64) (percent : Float) :
    (sample base percent).Yields fun value =>
      base.toInt - magnitude base percent ≤ value.toInt ∧
        value.toInt ≤ base.toInt + magnitude base percent := by
  intro attempts source value rest hrun
  obtain ⟨s, hshift, hvalue⟩ := sample_eq_ok_iff.mp hrun
  have hdistance := (shift_yields base percent _ _ _ _ hshift).distance
  omega

theorem sampled (base : Int64) (percent : Float) : Sampled base percent where
  magnitude_nonneg := Int.natCast_nonneg _
  magnitude_fits := fits_magnitude base percent
  shift_yields := shift_yields base percent
  fault_iff _ _ _ := sample_eq_fault_iff
  ok_iff _ _ _ _ := sample_eq_ok_iff
  safe := by
    intro hnonneg hsum attempts source reason hfault
    obtain ⟨-, s, rest, hshift, hfits⟩ := sample_eq_fault_iff.mp hfault
    have hdistance := (shift_yields base percent _ _ _ _ hshift).distance
    have hleast : Int64.minValue.toInt = -Int64.maxValue.toInt - 1 := rfl
    unfold Fits at hfits
    omega
  near := sample_yields base percent
  still := by
    intro hnone
    refine (sample_yields base percent).mono fun value hvalue => Int64.toInt_inj.mp ?_
    omega

/-! ## Counts -/

/-- The base of a count, which is at most the largest signed word. -/
def capped (base : UInt64) : Int64 := Int64.ofNat (min base.toNat countLimit)

theorem toInt_capped (base : UInt64) :
    (capped base).toInt = (min base.toNat countLimit : Nat) := by
  apply Int64.toInt_ofNat_of_lt
  have hlimit : countLimit = 2 ^ 63 - 1 := rfl
  omega

/-- A count comes from a sample: it is the sample, or zero where that is negative. So it keeps to
the magnitude on both sides of its base. -/
structure Counted (base : UInt64) (percent : Float) (value : Int64) (count : Nat) : Prop where
  eq_max : (count : Int) = max 0 value.toInt
  least : max 0 ((min base.toNat countLimit : Nat) - (magnitude (capped base) percent : Int)) ≤
    (count : Int)
  most : count ≤ min base.toNat countLimit + magnitude (capped base) percent

theorem exists_sample_of_count {base : UInt64} {n : Nat}
    (h : count base percent attempts source = .ok (n, rest)) :
    ∃ value, sample (capped base) percent attempts source = .ok (value, rest) ∧
      Counted base percent value n := by
  obtain ⟨value, mid, hrun, hcount⟩ := Draw.bind_eq_ok.mp h
  rw [Draw.pure_apply] at hcount
  cases hcount
  refine ⟨value, hrun, ?_⟩
  obtain ⟨hlow, hhigh⟩ := sample_yields (capped base) percent _ _ _ _ hrun
  rw [toInt_capped] at hlow hhigh
  constructor <;> omega

end ClassMill.Variance
