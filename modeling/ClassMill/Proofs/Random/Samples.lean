import ClassMill.Proofs.Random.Reach

/-!
# The samples of a distribution

The check that a distribution is within bounds looks at its ends only. It is exact: a range that
is not inverted gives both of its ends and nothing beyond them, and an inverted one faults
whatever the words are.
-/

namespace ClassMill.Distribution

open ClassMill.Random

variable {d : Distribution}

/-- The source that repeats the word of zeros gives the low end. -/
theorem sample_stepper_zero (h : d.low ≤ d.high) (attempts : Nat) :
    d.sample (attempts + 1) (.stepper 0 0) = .ok (d.low, .stepper 0 0) := by
  cases d with
  | uniform low high => exact Draw.between_of_zero h rfl attempts
  | const value => rfl

/-- The source that repeats the greatest word gives the high end. -/
theorem sample_stepper_last (h : d.low ≤ d.high) (attempts : Nat) :
    d.sample (attempts + 1) (.stepper 18446744073709551615 0) =
      .ok (d.high, .stepper 18446744073709551615 0) := by
  cases d with
  | uniform low high => exact Draw.between_of_last h rfl attempts
  | const value => rfl

/-- An inverted range faults before it takes a word. -/
theorem sample_of_inverted (h : d.high < d.low) (attempts : Nat) (source : Source) :
    d.sample attempts source = .error (.fault .invertedRange) := by
  cases d with
  | uniform low high =>
    have horder : high < low := h
    have hinverted : Draw.between low high = Draw.fault .invertedRange := by
      rw [Draw.between, if_pos horder]
    rw [sample, hinverted]
    rfl
  | const value => exact absurd h (UInt64.lt_irrefl value)

theorem low_le_high_of_sample_safe (h : d.sample.Safe) : d.low ≤ d.high := by
  by_contra horder
  exact h 0 (.stepper 0 0) _ (sample_of_inverted (UInt64.not_le.mp horder) 0 _)

/-- A distribution is within two bounds exactly if it is sampled without faults and all its
samples lie between the bounds, from any source of words. A range that is not inverted has both
of its ends as samples, of sources that repeat one word, and an inverted range has no samples. -/
theorem within_iff_samples (d : Distribution) :
    (∀ low high, d.within low high = true ↔
      d.sample.Safe ∧ d.sample.Yields fun v => low ≤ v ∧ v ≤ high) ∧
    (d.low ≤ d.high → ∀ attempts,
      d.sample (attempts + 1) (.stepper 0 0) = .ok (d.low, .stepper 0 0) ∧
      d.sample (attempts + 1) (.stepper 18446744073709551615 0) =
        .ok (d.high, .stepper 18446744073709551615 0)) ∧
    (d.high < d.low → ∀ attempts source,
      d.sample attempts source = .error (.fault .invertedRange)) := by
  refine ⟨fun low high => ⟨fun h => ?_, ?_⟩, fun h attempts => ?_, sample_of_inverted⟩
  · exact ⟨sample_safe_of_within h, sample_yields_of_within h⟩
  · rintro ⟨hsafe, hyields⟩
    have horder := low_le_high_of_sample_safe hsafe
    -- The ends are samples themselves, so the bounds hold of them.
    have hlow := hyields _ _ _ _ (sample_stepper_zero horder 0)
    have hhigh := hyields _ _ _ _ (sample_stepper_last horder 0)
    exact within_iff.mpr ⟨horder, hlow.1, hhigh.2⟩
  · exact ⟨sample_stepper_zero h attempts, sample_stepper_last h attempts⟩

/-- The range of all words keeps to its own ends and to no closer bounds. -/
theorem within_iff_samples_all :
    (uniform 0 18446744073709551615).sample.Safe ∧
      ¬ ((uniform 0 18446744073709551615).sample.Yields fun v =>
        0 ≤ v ∧ v ≤ 18446744073709551614) ∧
      (uniform 0 18446744073709551615).sample 1 (.stepper 18446744073709551615 0) =
        .ok (18446744073709551615, .stepper 18446744073709551615 0) ∧
      (uniform 1 0).sample 1 (.stepper 0 0) = .error (.fault .invertedRange) := by
  obtain ⟨hwithin, hends, -⟩ := within_iff_samples (uniform 0 18446744073709551615)
  obtain ⟨-, -, hinverted⟩ := within_iff_samples (uniform 1 0)
  have hsafe := ((hwithin 0 18446744073709551615).mp (by decide)).1
  have hclose : ¬ (uniform 0 18446744073709551615).within 0 18446744073709551614 = true := by
    decide
  exact ⟨hsafe, fun hyields => hclose ((hwithin _ _).mpr ⟨hsafe, hyields⟩),
    (hends (by decide) 0).2, hinverted (by decide) 1 _⟩

end ClassMill.Distribution
