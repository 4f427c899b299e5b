import ClassMill.Statistics.OfBatch

/-!
# Totals of a batch

Classes are added to the totals one after another, and the totals count each of them.
-/

namespace ClassMill

/-- Two fallible steps succeed exactly if the first does and then the second. -/
theorem Except.bind_eq_ok {ε α β : Type} {x : Except ε α} {f : α → Except ε β} {b : β} :
    (x >>= f) = .ok b ↔ ∃ a, x = .ok a ∧ f a = .ok b := by
  cases x with
  | error reason => simp [Bind.bind, Except.bind]
  | ok a => simp [Bind.bind, Except.bind]

/-- Two fallible steps fail exactly if the first does, or else the second. -/
theorem Except.bind_eq_error {ε α β : Type} {x : Except ε α} {f : α → Except ε β} {reason : ε} :
    (x >>= f) = .error reason ↔ x = .error reason ∨ ∃ a, x = .ok a ∧ f a = .error reason := by
  cases x with
  | error other => simp [Bind.bind, Except.bind]
  | ok a => simp [Bind.bind, Except.bind]

/-- Another wording of an error makes no step succeed or fail. -/
theorem Except.mapError_eq_ok {ε η α : Type} {x : Except ε α} {f : ε → η} {a : α} :
    x.mapError f = .ok a ↔ x = .ok a := by
  cases x with
  | error reason => exact ⟨nofun, nofun⟩
  | ok b =>
    constructor
    · intro h
      cases h
      rfl
    · intro h
      cases h
      rfl

theorem Except.mapError_eq_error {ε η α : Type} {x : Except ε α} {f : ε → η} {worded : η} :
    x.mapError f = .error worded ↔ ∃ reason, x = .error reason ∧ f reason = worded := by
  cases x with
  | error reason =>
    constructor
    · intro h
      exact ⟨reason, rfl, Except.error.inj h⟩
    · rintro ⟨_, ⟨⟩, rfl⟩
      rfl
  | ok b => exact ⟨nofun, nofun⟩

theorem eq_of_checkedSum {a b sum : Nat} (h : checkedSum a b = .ok sum) : sum = a + b := by
  unfold checkedSum at h
  split at h
  · cases h
    rfl
  · cases h

namespace BatchStatistics

theorem addAll_cons_eq_ok_iff {totals sum : BatchStatistics} {s : ClassStatistics}
    {more : List ClassStatistics} :
    totals.addAll (s :: more) = .ok sum ↔
      ∃ mid, totals.add s = .ok mid ∧ mid.addAll more = .ok sum :=
  Except.bind_eq_ok

theorem classes_of_add {totals sum : BatchStatistics} {s : ClassStatistics}
    (h : totals.add s = .ok sum) : sum.classes = totals.classes + 1 := by
  obtain ⟨classes, hclasses, h⟩ := Except.bind_eq_ok.mp h
  obtain ⟨properties, -, h⟩ := Except.bind_eq_ok.mp h
  obtain ⟨methods, -, h⟩ := Except.bind_eq_ok.mp h
  obtain ⟨ofClass, -, h⟩ := Except.bind_eq_ok.mp h
  obtain ⟨sections, -, h⟩ := Except.bind_eq_ok.mp h
  obtain ⟨sectionKinds, -, h⟩ := Except.bind_eq_ok.mp h
  obtain ⟨propertyTypes, -, h⟩ := Except.bind_eq_ok.mp h
  cases h
  exact eq_of_checkedSum hclasses

/-- The totals count every class. -/
theorem classes_of_addAll {totals sum : BatchStatistics} {list : List ClassStatistics}
    (h : totals.addAll list = .ok sum) : sum.classes = totals.classes + list.length := by
  induction list generalizing totals with
  | nil =>
    cases h
    rfl
  | cons s list ih =>
    obtain ⟨mid, hmid, hrest⟩ := addAll_cons_eq_ok_iff.mp h
    rw [ih hrest, classes_of_add hmid, List.length_cons]
    omega

end BatchStatistics

end ClassMill
