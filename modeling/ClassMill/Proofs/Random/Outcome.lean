import ClassMill.Proofs.Random.Sequence
import Mathlib.Data.List.Forall2

/-!
# What draws yield and how they halt

A property of all values that a draw can yield, and the absence of faults, are shown for
composed draws from their parts. Running out of attempts is no fault, so a draw without faults
yields a value from every source that accepts one of its candidates in time.
-/

namespace ClassMill.Random.Draw

variable {α β : Type} {x : Draw α} {P : α → Prop}

/-- Every value that the draw yields has a property. -/
def Yields (x : Draw α) (P : α → Prop) : Prop :=
  ∀ (attempts : Nat) (source : Source) (a : α) (rest : Source),
    x attempts source = .ok (a, rest) → P a

/-- The draw never halts with a fault. -/
def Safe (x : Draw α) : Prop :=
  ∀ (attempts : Nat) (source : Source) (reason : Fault),
    x attempts source ≠ .error (.fault reason)

/-! ## Values -/

theorem Yields.mono {Q : α → Prop} (hx : x.Yields P) (h : ∀ a, P a → Q a) : x.Yields Q := by
  intro attempts source a rest hrun
  exact h a (hx _ _ _ _ hrun)

theorem yields_pure {a : α} (h : P a) : (Pure.pure a : Draw α).Yields P := by
  intro attempts source b rest hrun
  rw [pure_apply] at hrun
  cases hrun
  exact h

/-- A composed draw yields what its second part yields after the values of its first part. -/
theorem Yields.bind {f : α → Draw β} {Q : β → Prop} (hx : x.Yields P)
    (hf : ∀ a, P a → (f a).Yields Q) : (x >>= f).Yields Q := by
  intro attempts source b rest hrun
  obtain ⟨a, mid, ha, hb⟩ := bind_eq_ok.mp hrun
  exact hf a (hx _ _ _ _ ha) _ _ _ _ hb

/-- What follows a draw only matters on the values that the draw yields. -/
theorem Yields.bind_congr {f g : α → Draw β} (hx : x.Yields P) (h : ∀ a, P a → f a = g a) :
    x >>= f = x >>= g := by
  funext attempts source
  rw [bind_apply, bind_apply]
  cases hrun : x attempts source with
  | error halt => rfl
  | ok result =>
    have ha : f result.1 = g result.1 := h _ (hx _ _ _ _ hrun)
    exact congrFun (congrFun ha attempts) result.2

theorem yields_true (x : Draw α) : x.Yields fun _ => True :=
  fun _ _ _ _ _ => trivial

theorem Yields.map {f : α → β} {Q : β → Prop} (hx : x.Yields P) (hf : ∀ a, P a → Q (f a)) :
    (f <$> x).Yields Q := by
  rw [map_eq_pure_bind]
  exact hx.bind fun a ha => yields_pure (hf a ha)

theorem yields_ofExcept (e : Except Fault α) : (ofExcept e).Yields fun a => e = .ok a := by
  intro attempts source a rest hrun
  cases e with
  | error reason => cases hrun
  | ok b =>
    have hpure : (Pure.pure b : Draw α) attempts source = .ok (a, rest) := hrun
    rw [pure_apply] at hpure
    cases hpure
    rfl

/-- A repeated draw yields accepted candidates only. -/
theorem Yields.redraw {keep : α → Option β} (hx : x.Yields P) :
    (redraw x keep).Yields fun b => ∃ a, P a ∧ keep a = some b := by
  intro attempts source b rest hrun
  obtain ⟨rejected, mid, a, -, -, -, hlast, hkeep⟩ := redraw_eq_ok_iff.mp hrun
  exact ⟨a, hx _ _ _ _ hlast, hkeep⟩

theorem Yields.times (hx : x.Yields P) (n : Nat) :
    (times x n).Yields fun items => items.length = n ∧ ∀ a ∈ items, P a := by
  induction n with
  | zero => exact yields_pure ⟨rfl, by simp⟩
  | succ n ih =>
    refine hx.bind fun a ha => ih.bind fun items hitems => yields_pure ⟨?_, ?_⟩
    · rw [List.length_cons, hitems.1]
    · exact List.forall_mem_cons.mpr ⟨ha, hitems.2⟩

theorem Yields.listOf (hx : x.Yields P) (size count : Nat) :
    (listOf size x count).Yields fun items => items.length = count ∧ ∀ a ∈ items, P a :=
  (yields_true _).bind fun _ _ => hx.times count

/-- One draw for each item yields values that fit the items one by one. -/
theorem yields_forEach {f : α → Draw β} {R : α → β → Prop} {items : List α}
    (h : ∀ a ∈ items, (f a).Yields (R a)) : (forEach f items).Yields (List.Forall₂ R items) := by
  induction items with
  | nil => exact yields_pure .nil
  | cons a items ih =>
    have hrest := ih fun b hb => h b (List.mem_cons_of_mem a hb)
    exact (h a (by simp)).bind fun b hb => hrest.bind fun bs hbs => yields_pure (.cons hb hbs)

/-! ## Faults -/

/-- A composed draw halts as its first part does, or as its second part does after a value of its
first. -/
theorem bind_eq_error {f : α → Draw β} {attempts : Nat} {source : Source} {halt : Halt} :
    (x >>= f) attempts source = .error halt ↔
      x attempts source = .error halt ∨
        ∃ a mid, x attempts source = .ok (a, mid) ∧ f a attempts mid = .error halt := by
  rw [bind_apply]
  cases x attempts source with
  | error reason => simp
  | ok p =>
    constructor
    · intro h
      exact .inr ⟨p.1, p.2, rfl, h⟩
    · rintro (h | ⟨a, mid, h, hf⟩)
      · cases h
      · cases h
        exact hf

theorem safe_pure (a : α) : (Pure.pure a : Draw α).Safe := by
  intro attempts source reason h
  cases h

/-- A composed draw has no fault if its second part has none after the values of its first. -/
theorem Safe.bind {f : α → Draw β} (hsafe : x.Safe) (hx : x.Yields P)
    (hf : ∀ a, P a → (f a).Safe) : (x >>= f).Safe := by
  intro attempts source reason h
  rcases bind_eq_error.mp h with hfirst | ⟨a, mid, hrun, hsecond⟩
  · exact hsafe attempts source reason hfirst
  · exact hf a (hx _ _ _ _ hrun) attempts mid reason hsecond

theorem Safe.andThen {f : α → Draw β} (hsafe : x.Safe) (hf : ∀ a, (f a).Safe) :
    (x >>= f).Safe :=
  hsafe.bind (yields_true x) fun a _ => hf a

theorem Safe.map {f : α → β} (hsafe : x.Safe) : (f <$> x).Safe := by
  rw [map_eq_pure_bind]
  exact hsafe.andThen fun a => safe_pure (f a)

theorem safe_ofExcept {e : Except Fault α} {a : α} (h : e = .ok a) : (ofExcept e).Safe := by
  subst h
  exact safe_pure a

theorem safe_word32 : word32.Safe := by
  intro attempts source reason h
  cases h

theorem safe_word64 : word64.Safe := by
  intro attempts source reason h
  cases h

/-- A fault of a redraw is a fault of a candidate. -/
theorem exists_faulty_candidate {candidate : Source → Except Halt (α × Source)}
    {keep : α → Option β} {left : Nat} {source : Source} {reason : Fault}
    (h : redrawFrom candidate keep left source = .error (.fault reason)) :
    ∃ source, candidate source = .error (.fault reason) := by
  induction left generalizing source with
  | zero => cases h
  | succ left ih =>
    rw [redrawFrom] at h
    cases hcandidate : candidate source with
    | error halt =>
      rw [hcandidate] at h
      cases h
      exact ⟨source, hcandidate⟩
    | ok p =>
      simp only [hcandidate] at h
      cases hkeep : keep p.1 with
      | none =>
        simp only [hkeep] at h
        exact ih h
      | some c => simp only [hkeep, reduceCtorEq] at h

/-- Repeating a draw adds no faults. -/
theorem Safe.redraw {keep : α → Option β} (hsafe : x.Safe) : (redraw x keep).Safe := by
  intro attempts source reason hrun
  obtain ⟨before, hcandidate⟩ := exists_faulty_candidate hrun
  exact hsafe attempts before reason hcandidate

theorem Safe.times (hsafe : x.Safe) (n : Nat) : (times x n).Safe := by
  induction n with
  | zero => exact safe_pure []
  | succ n ih => exact hsafe.andThen fun a => ih.andThen fun items => safe_pure (a :: items)

/-- A list whose storage can be reserved is drawn without faults if its items are. -/
theorem Safe.listOf (hsafe : x.Safe) {size count : Nat} (h : count * size ≤ storageLimit) :
    (listOf size x count).Safe := by
  have hreserve : reserve count size = .ok () := by
    rw [reserve, if_pos h]
  exact (safe_ofExcept hreserve).andThen fun _ => hsafe.times count

theorem safe_forEach {f : α → Draw β} {items : List α} (h : ∀ a ∈ items, (f a).Safe) :
    (forEach f items).Safe := by
  induction items with
  | nil => exact safe_pure []
  | cons a items ih =>
    have hrest := ih fun b hb => h b (List.mem_cons_of_mem a hb)
    exact (h a (by simp)).andThen fun b => hrest.andThen fun bs => safe_pure (b :: bs)

end ClassMill.Random.Draw
