import ClassMill.Proofs.Random.Range

/-!
# What draws can reach

A draw reaches a value, or a fault, if some words in front of any keystream lead it there with
a single attempt. Both are shown for composed draws from their parts, like the facts about all
values. Words of zeros are accepted by every range and give its low end; the greatest word
gives the high end of a range of integers.
-/

namespace ClassMill

open ClassMill.Random

namespace Random.Draw

variable {α β : Type} {x : Draw α} {a : α} {reason : Fault}

/-- Some words lead the draw to the value, and it takes just these words. -/
def Reaches (x : Draw α) (a : α) : Prop :=
  ∃ words, ∀ key counter pending,
    x 1 (.keystream key counter (words ++ pending)) = .ok (a, .keystream key counter pending)

/-- Some words lead the draw to the fault. -/
def Faults (x : Draw α) (reason : Fault) : Prop :=
  ∃ words, ∀ key counter pending,
    x 1 (.keystream key counter (words ++ pending)) = .error (.fault reason)

/-- The draw reaches some value. -/
def Reachable (x : Draw α) : Prop := ∃ a, x.Reaches a

/-! ## Values -/

theorem Reaches.reachable (hx : x.Reaches a) : x.Reachable := ⟨a, hx⟩

theorem reaches_pure (a : α) : (Pure.pure a : Draw α).Reaches a := ⟨[], fun _ _ _ => rfl⟩

/-- A composed draw takes the words of its first part and then those of its second part. -/
theorem Reaches.bind {f : α → Draw β} {b : β} (hx : x.Reaches a) (hf : (f a).Reaches b) :
    (x >>= f).Reaches b := by
  obtain ⟨words, hfirst⟩ := hx
  obtain ⟨more, hsecond⟩ := hf
  refine ⟨words ++ more, fun key counter pending => ?_⟩
  rw [List.append_assoc]
  exact bind_eq_ok.mpr ⟨a, _, hfirst _ _ _, hsecond _ _ _⟩

theorem Reaches.andThen {f : α → Draw β} (hx : x.Reaches a) (hf : (f a).Reachable) :
    (x >>= f).Reachable := by
  obtain ⟨b, hb⟩ := hf
  exact (hx.bind hb).reachable

theorem Reachable.andThen {f : α → Draw β} (hx : x.Reachable) (hf : ∀ a, (f a).Reachable) :
    (x >>= f).Reachable := by
  obtain ⟨a, ha⟩ := hx
  exact ha.andThen (hf a)

theorem reachable_pure (a : α) : (Pure.pure a : Draw α).Reachable := (reaches_pure a).reachable

theorem Reachable.map {f : α → β} (hx : x.Reachable) : (f <$> x).Reachable := by
  rw [map_eq_pure_bind]
  exact hx.andThen fun a => reachable_pure (f a)

theorem reaches_ofExcept {e : Except Fault α} (h : e = .ok a) : (ofExcept e).Reaches a := by
  subst h
  exact reaches_pure a

theorem reaches_word32 (word : UInt32) : word32.Reaches word := ⟨[word], fun _ _ _ => rfl⟩

/-- A word of 64 bits is made of two words, the low half first. -/
theorem reaches_word64 (low high : UInt32) {word : UInt64}
    (h : high.toUInt64 <<< 32 ||| low.toUInt64 = word) : word64.Reaches word := by
  subst h
  exact ⟨[low, high], fun _ _ _ => rfl⟩

theorem reaches_word64_zero : word64.Reaches 0 :=
  reaches_word64 0 0 (by decide)

theorem Reaches.redraw {keep : α → Option β} {b : β} (hx : x.Reaches a) (h : keep a = some b) :
    (redraw x keep).Reaches b := by
  obtain ⟨words, hrun⟩ := hx
  refine ⟨words, fun key counter pending => ?_⟩
  change redrawFrom (x 1) keep 1 _ = _
  simp only [redrawFrom, hrun, h]

theorem Reaches.times (hx : x.Reaches a) (n : Nat) :
    (times x n).Reaches (List.replicate n a) := by
  induction n with
  | zero => exact reaches_pure []
  | succ n ih => exact hx.bind (ih.bind (reaches_pure _))

theorem Reaches.listOf (hx : x.Reaches a) {size count : Nat} (h : count * size ≤ storageLimit) :
    (listOf size x count).Reaches (List.replicate count a) :=
  (reaches_ofExcept (by rw [reserve, if_pos h])).bind (hx.times count)

theorem reaches_forEach {f : α → Draw β} (items : List α) (h : ∀ a, (f a).Reachable) :
    ∃ bs, bs.length = items.length ∧ (forEach f items).Reaches bs := by
  induction items with
  | nil => exact ⟨[], rfl, reaches_pure []⟩
  | cons a items ih =>
    obtain ⟨b, hb⟩ := h a
    obtain ⟨bs, hlength, hbs⟩ := ih
    exact ⟨b :: bs, by simp [hlength], hb.bind (hbs.bind (reaches_pure _))⟩

/-! ## Faults -/

theorem Faults.not_safe (h : x.Faults reason) : ¬ x.Safe := by
  obtain ⟨words, hrun⟩ := h
  intro hsafe
  exact hsafe 1 (.keystream (.ofSeed 0) 0 (words ++ [])) reason (hrun _ _ _)

theorem faults_ofExcept {e : Except Fault α} (h : e = .error reason) :
    (ofExcept e).Faults reason := by
  subst h
  exact ⟨[], fun _ _ _ => rfl⟩

theorem Faults.bind {f : α → Draw β} (h : x.Faults reason) : (x >>= f).Faults reason := by
  obtain ⟨words, hrun⟩ := h
  refine ⟨words, fun key counter pending => ?_⟩
  simp only [bind_apply, hrun]

theorem Reaches.bind_faults {f : α → Draw β} (hx : x.Reaches a) (hf : (f a).Faults reason) :
    (x >>= f).Faults reason := by
  obtain ⟨words, hfirst⟩ := hx
  obtain ⟨more, hsecond⟩ := hf
  refine ⟨words ++ more, fun key counter pending => ?_⟩
  rw [List.append_assoc, bind_apply, hfirst]
  exact hsecond _ _ _

/-- A list of at least one item faults with its first item. -/
theorem Faults.listOf (h : x.Faults reason) {size count : Nat} (hpos : 0 < count)
    (hfits : count * size ≤ storageLimit) : (listOf size x count).Faults reason := by
  obtain ⟨n, rfl⟩ := Nat.exists_eq_add_one_of_ne_zero (Nat.ne_of_gt hpos)
  exact (reaches_ofExcept (by rw [reserve, if_pos hfits])).bind_faults h.bind

theorem faults_listOf {size count : Nat} (h : storageLimit < count * size) :
    (listOf size x count).Faults .capacityOverflow :=
  (faults_ofExcept (by rw [reserve, if_neg (Nat.not_le.mpr h)])).bind

/-! ## Uniform draws -/

theorem scaled_zero (bits range zone : Nat) : scaled bits range zone 0 = some 0 := by
  simp [scaled]

/-- The greatest word is scaled to the greatest value of a range. -/
theorem scaled_last (range : Nat) (hpos : 0 < range) (hlt : range < UInt64.size) :
    scaled 64 range (evenZone 64 range) (UInt64.size - 1) = some (range - 1) := by
  have hwords : 1 <<< 64 = UInt64.size := rfl
  have hupper : ∀ n, n >>> 64 = n / UInt64.size := fun n => Nat.shiftRight_eq_div_pow n 64
  have hsize : UInt64.size = 18446744073709551616 := rfl
  have hproduct : (UInt64.size - 1) * range =
      UInt64.size * (range - 1) + (UInt64.size - range) := by
    rw [hsize] at hlt ⊢
    omega
  have hlow : (UInt64.size - 1) * range % UInt64.size = UInt64.size - range := by
    rw [hproduct, Nat.mul_add_mod, Nat.mod_eq_of_lt (by omega)]
  have hhigh : (UInt64.size - 1) * range / UInt64.size = range - 1 := by
    rw [hproduct, Nat.mul_add_div (by decide), Nat.div_eq_of_lt (by omega), Nat.add_zero]
  have hzone : (UInt64.size - range) % range < range := Nat.mod_lt _ hpos
  rw [scaled, evenZone, hupper, hwords, hlow, hhigh, if_pos (by omega)]

theorem reaches_index (n : Nat) : (index n).Reaches 0 :=
  (reaches_word32 0).redraw (scaled_zero 32 n _)

theorem reaches_choose (first : α) (others : List α) :
    (choose (first :: others)).Reaches (some first) :=
  (reaches_index _).bind (reaches_pure _)

theorem reaches_pick (first : α) (others : List α) : (pick first others).Reaches first :=
  (reaches_choose first others).bind (reaches_pure _)

theorem reaches_upTo (n : Nat) : (upTo n).Reaches 0 :=
  reaches_word64_zero.redraw (scaled_zero 64 (n + 1) _)

/-- A range of integers that is not all words is moved by the offset that a word is scaled to. -/
theorem between_of_scaled {low high word : UInt64} {offset : Nat} {source rest : Source}
    (h : low ≤ high) (hall : high.toNat - low.toNat + 1 ≠ UInt64.size)
    (hword : source.next64 = (word, rest))
    (hscaled : scaled 64 (high.toNat - low.toNat + 1)
      (evenZone 64 (high.toNat - low.toNat + 1)) word.toNat = some offset) (attempts : Nat) :
    between low high (attempts + 1) source = .ok (low + UInt64.ofNat offset, rest) := by
  have hmoved : between low high = do
      let offset ← redraw word64 fun word =>
        scaled 64 (high.toNat - low.toNat + 1)
          (evenZone 64 (high.toNat - low.toNat + 1)) word.toNat
      return low + UInt64.ofNat offset := by
    unfold between
    rw [if_neg (UInt64.not_lt.mpr h)]
    dsimp only
    rw [if_neg hall]
  rw [hmoved]
  refine bind_eq_ok.mpr ⟨offset, rest, ?_, rfl⟩
  simp only [redraw, redrawFrom, word64, hword, hscaled]

/-- The range of all words is one word. -/
theorem between_of_all {low high word : UInt64} {source rest : Source} (h : low ≤ high)
    (hall : high.toNat - low.toNat + 1 = UInt64.size) (hword : source.next64 = (word, rest))
    (attempts : Nat) : between low high attempts source = .ok (word, rest) := by
  have hwhole : between low high = word64 := by
    unfold between
    rw [if_neg (UInt64.not_lt.mpr h)]
    dsimp only
    rw [if_pos hall]
  rw [hwhole, word64, hword]

/-- A word of zeros gives the low end of a range of integers. -/
theorem between_of_zero {low high : UInt64} {source rest : Source} (h : low ≤ high)
    (hword : source.next64 = (0, rest)) (attempts : Nat) :
    between low high (attempts + 1) source = .ok (low, rest) := by
  have hhigh := high.toNat_lt
  have hsize : UInt64.size = 2 ^ 64 := rfl
  by_cases hall : high.toNat - low.toNat + 1 = UInt64.size
  · have hlow : low = 0 := UInt64.toNat_inj.mp (by rw [UInt64.toNat_zero]; omega)
    subst hlow
    exact between_of_all h hall hword _
  · have hbetween := between_of_scaled h hall hword (scaled_zero 64 _ _) attempts
    simpa using hbetween

/-- The greatest word gives the high end of a range of integers. -/
theorem between_of_last {low high : UInt64} {source rest : Source} (h : low ≤ high)
    (hword : source.next64 = (18446744073709551615, rest)) (attempts : Nat) :
    between low high (attempts + 1) source = .ok (high, rest) := by
  have hhigh := high.toNat_lt
  have hsize : UInt64.size = 2 ^ 64 := rfl
  have horder : low.toNat ≤ high.toNat := UInt64.le_iff_toNat_le.mp h
  have hlast : (18446744073709551615 : UInt64).toNat = UInt64.size - 1 := rfl
  by_cases hall : high.toNat - low.toNat + 1 = UInt64.size
  · have heq : high = 18446744073709551615 := UInt64.toNat_inj.mp (by rw [hlast]; omega)
    subst heq
    exact between_of_all h hall hword _
  · have hscaled := scaled_last (high.toNat - low.toNat + 1) (by omega) (by omega)
    have hbetween := between_of_scaled h hall hword hscaled attempts
    have hsum : low + UInt64.ofNat (high.toNat - low.toNat + 1 - 1) = high := by
      apply UInt64.toNat_inj.mp
      rw [UInt64.toNat_add, UInt64.toNat_ofNat', Nat.mod_eq_of_lt (by omega),
        Nat.mod_eq_of_lt (by omega)]
      omega
    rwa [hsum] at hbetween

/-- A range of integers can give its low end. -/
theorem reaches_between_low {low high : UInt64} (h : low ≤ high) :
    (between low high).Reaches low :=
  ⟨[0, 0], fun _ _ _ => between_of_zero h rfl 0⟩

/-- A range of integers can give its high end. -/
theorem reaches_between_high {low high : UInt64} (h : low ≤ high) :
    (between low high).Reaches high :=
  ⟨[4294967295, 4294967295], fun _ _ _ => between_of_last h rfl 0⟩

/-- A probability is drawn, with a result that depends on the probability. -/
theorem reachable_chance {p : Float} (h : (chance p).Safe) : (chance p).Reachable := by
  unfold chance at h ⊢
  by_cases hcertain : (p == 1.0) = true
  · rw [if_pos hcertain]
    exact reachable_pure true
  · rw [if_neg hcertain] at h ⊢
    by_cases hvalid : 0.0 ≤ p ∧ p < 1.0
    · rw [if_pos hvalid]
      exact reaches_word64_zero.andThen (reachable_pure _)
    · rw [if_neg hvalid] at h
      exact absurd h (faults_ofExcept rfl).not_safe

end Random.Draw

namespace Distribution

variable {d : Distribution}

theorem reaches_sample_low (h : d.low ≤ d.high) : d.sample.Reaches d.low := by
  cases d with
  | uniform low high => exact Draw.reaches_between_low h
  | const value => exact Draw.reaches_pure value

theorem reaches_sample_high (h : d.low ≤ d.high) : d.sample.Reaches d.high := by
  cases d with
  | uniform low high => exact Draw.reaches_between_high h
  | const value => exact Draw.reaches_pure value

end Distribution

end ClassMill
