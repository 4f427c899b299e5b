import ClassMill.Distribution
import ClassMill.Proofs.Random.Outcome
import Mathlib.Tactic.Common

/-!
# The values and faults of uniform draws

Scaled words lie below their range, so indices select an item and integers lie between the ends
of their range. Ranges that are not inverted, probabilities and nonempty finite ranges of reals
of finite width are drawn without faults.
-/

namespace ClassMill

open ClassMill.Random

namespace Random

/-- Scaling a word yields a number below the range. -/
theorem scaled_lt {bits range zone word i : Nat} (hrange : 0 < range) (hword : word < 1 <<< bits)
    (h : scaled bits range zone word = some i) : i < range := by
  unfold scaled at h
  split at h
  · obtain rfl := Option.some.inj h
    rw [Nat.one_shiftLeft] at hword
    rw [Nat.shiftRight_eq_div_pow, Nat.div_lt_iff_lt_mul (Nat.two_pow_pos bits),
      Nat.mul_comm range]
    exact Nat.mul_lt_mul_of_pos_right hword hrange
  · cases h

namespace Draw

theorem index_yields {n : Nat} (h : 0 < n) : (index n).Yields (· < n) := by
  have hword : word32.Yields fun _ => True := yields_true word32
  refine hword.redraw.mono ?_
  rintro i ⟨word, -, hscaled⟩
  exact scaled_lt h word.toNat_lt hscaled

theorem index_safe (n : Nat) : (index n).Safe := safe_word32.redraw

theorem upTo_yields (n : Nat) : (upTo n).Yields (· ≤ n) := by
  refine (yields_true word64).redraw.mono ?_
  rintro i ⟨word, -, hscaled⟩
  exact Nat.le_of_lt_succ (scaled_lt n.succ_pos word.toNat_lt hscaled)

theorem upTo_safe (n : Nat) : (upTo n).Safe := safe_word64.redraw

variable {α : Type}

/-- A choice from a nonempty list yields one of its items. -/
theorem choose_yields {items : List α} (h : items ≠ []) :
    (choose items).Yields fun r => ∃ a ∈ items, r = some a := by
  have hlength : 0 < items.length := List.length_pos_iff.mpr h
  rw [choose, if_neg (by simpa using h)]
  refine (index_yields hlength).bind fun i hi => yields_pure ?_
  exact ⟨items[i], List.getElem_mem hi, List.getElem?_eq_getElem hi⟩

theorem choose_safe (items : List α) : (choose items).Safe := by
  unfold choose
  split
  · exact safe_pure none
  · exact (index_safe _).andThen fun i => safe_pure _

theorem pick_safe (first : α) (others : List α) : (pick first others).Safe :=
  (choose_safe _).andThen fun _ => safe_pure _

/-- An integer drawn from a range lies between its ends. -/
theorem between_yields (low high : UInt64) :
    (between low high).Yields fun v => low ≤ v ∧ v ≤ high := by
  unfold between
  split
  · intro attempts source a rest hrun
    cases hrun
  · rename_i horder
    have hle : low.toNat ≤ high.toNat := by
      have := UInt64.not_lt.mp horder
      rwa [UInt64.le_iff_toNat_le] at this
    dsimp only
    split
    · rename_i hall
      have hhigh := high.toNat_lt
      have hsize : UInt64.size = 2 ^ 64 := rfl
      refine (yields_true word64).mono fun v _ => ?_
      have hv := v.toNat_lt
      rw [UInt64.le_iff_toNat_le, UInt64.le_iff_toNat_le]
      omega
    · refine (yields_true word64).redraw.bind fun offset hoffset => yields_pure ?_
      obtain ⟨word, -, hscaled⟩ := hoffset
      have hlt := scaled_lt (by omega) word.toNat_lt hscaled
      have hhigh := high.toNat_lt
      rw [UInt64.le_iff_toNat_le, UInt64.le_iff_toNat_le, UInt64.toNat_add,
        UInt64.toNat_ofNat', Nat.mod_eq_of_lt (a := offset) (by omega),
        Nat.mod_eq_of_lt (by omega)]
      omega

theorem between_safe {low high : UInt64} (h : low ≤ high) : (between low high).Safe := by
  unfold between
  rw [if_neg (UInt64.not_lt.mpr h)]
  dsimp only
  split
  · exact safe_word64
  · exact safe_word64.redraw.andThen fun offset => safe_pure _

/-- Numbers of one order are equal or strictly ordered; a number that is none has no order. -/
theorem beq_or_lt_of_le {x y : Float} (h : x ≤ y) : (x == y) = true ∨ x < y := by
  have hle : (x.toModel.unpack.compare y.toModel.unpack).any (·.isLE) = true :=
    of_decide_eq_true h
  cases hcompare : x.toModel.unpack.compare y.toModel.unpack with
  | none => simp [hcompare] at hle
  | some order =>
    cases order with
    | lt =>
      right
      have hlt : x.toModel.lt y.toModel =
          (x.toModel.unpack.compare y.toModel.unpack == some .lt) := rfl
      rw [hcompare] at hlt
      exact decide_eq_true hlt
    | eq =>
      left
      have heq : x.toModel.beq y.toModel =
          (x.toModel.unpack.compare y.toModel.unpack == some .eq) := rfl
      rw [hcompare] at heq
      exact heq
    | gt => simp [hcompare] at hle

theorem chance_safe {p : Float} (hlow : 0.0 ≤ p) (hhigh : p ≤ 1.0) : (chance p).Safe := by
  unfold chance
  by_cases hcertain : (p == 1.0) = true
  · rw [if_pos hcertain]
    exact safe_pure true
  · rw [if_neg hcertain, if_pos ⟨hlow, (beq_or_lt_of_le hhigh).resolve_left hcertain⟩]
    exact safe_word64.andThen fun word => safe_pure _

/-- A range of reals is drawn without faults exactly if its ends are in order and they and its
width are finite. -/
theorem real_safe_iff {low high : Float} :
    (real low high).Safe ↔
      low < high ∧ low.isFinite = true ∧ high.isFinite = true ∧ (high - low).isFinite = true := by
  constructor
  · intro h
    have hfault : ∀ reason, real low high ≠ fault reason := fun reason heq =>
      h 0 (.stepper 0 0) reason (by rw [heq]; rfl)
    have horder : low < high := by
      by_contra horder
      exact hfault .emptyRange (by rw [real, if_pos horder])
    have hlow : low.isFinite = true := by
      by_contra hlow
      exact hfault .lowNotFinite (by rw [real, if_neg (not_not.mpr horder), if_pos hlow])
    have hhigh : high.isFinite = true := by
      by_contra hhigh
      exact hfault .highNotFinite (by
        rw [real, if_neg (not_not.mpr horder), if_neg (not_not.mpr hlow), if_pos hhigh])
    have hwidth : (high - low).isFinite = true := by
      by_contra hwidth
      exact hfault .spanNotFinite (by
        rw [real, if_neg (not_not.mpr horder), if_neg (not_not.mpr hlow),
          if_neg (not_not.mpr hhigh), if_pos hwidth])
    exact ⟨horder, hlow, hhigh, hwidth⟩
  · rintro ⟨horder, hlow, hhigh, hwidth⟩
    unfold real
    rw [if_neg (not_not.mpr horder), if_neg (not_not.mpr hlow), if_neg (not_not.mpr hhigh),
      if_neg (not_not.mpr hwidth)]
    exact safe_word64.redraw

end Draw

end Random

namespace Distribution

variable {d : Distribution}

/-- The samples of a distribution lie between its ends; an inverted one has no samples. -/
theorem sample_yields (d : Distribution) :
    d.sample.Yields fun v => d.low ≤ v ∧ v ≤ d.high := by
  cases d with
  | uniform low high => exact Draw.between_yields low high
  | const value => exact Draw.yields_pure ⟨UInt64.le_refl value, UInt64.le_refl value⟩

theorem sample_safe (h : d.low ≤ d.high) : d.sample.Safe := by
  cases d with
  | uniform low high => exact Draw.between_safe h
  | const value => exact Draw.safe_pure value

theorem within_iff {low high : UInt64} :
    d.within low high = true ↔ d.low ≤ d.high ∧ low ≤ d.low ∧ d.high ≤ high := by
  simp [within, and_assoc]

/-- The samples of a distribution within bounds keep to them. -/
theorem sample_yields_of_within {low high : UInt64} (h : d.within low high = true) :
    d.sample.Yields fun v => low ≤ v ∧ v ≤ high := by
  obtain ⟨-, hlow, hhigh⟩ := within_iff.mp h
  exact d.sample_yields.mono fun v hv =>
    ⟨UInt64.le_trans hlow hv.1, UInt64.le_trans hv.2 hhigh⟩

theorem sample_safe_of_within {low high : UInt64} (h : d.within low high = true) :
    d.sample.Safe :=
  sample_safe (within_iff.mp h).1

end Distribution

end ClassMill
