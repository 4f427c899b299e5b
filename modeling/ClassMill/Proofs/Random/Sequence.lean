import ClassMill.Random.Draw

/-!
# Draws in a row

Draws that follow one another are drawn in parts, and repeating a draw is drawing once for each
of equal items. A redraw is a row of draws as well: candidates that are rejected, and then the
first that is kept.
-/

namespace ClassMill.Random.Draw

variable {α β : Type} {x : Draw α}

theorem times_succ_eq_ok_iff {n attempts : Nat} {source : Source} {r : List α × Source} :
    times x (n + 1) attempts source = .ok r ↔
      ∃ a mid as rest, x attempts source = .ok (a, mid) ∧
        times x n attempts mid = .ok (as, rest) ∧ r = (a :: as, rest) := by
  simp only [times, bind_eq_ok, pure_apply, Except.ok.injEq]
  constructor
  · rintro ⟨a, mid, ha, as, rest, has, rfl⟩
    exact ⟨a, mid, as, rest, ha, has, rfl⟩
  · rintro ⟨a, mid, as, rest, ha, has, rfl⟩
    exact ⟨a, mid, ha, as, rest, has, rfl⟩

/-- Draws in a row are drawn in two parts. -/
theorem times_add (x : Draw α) (m n : Nat) :
    times x (m + n) = do
      let first ← times x m
      let rest ← times x n
      return first ++ rest := by
  induction m with
  | zero => simp [times]
  | succ m ih =>
    rw [Nat.succ_add]
    simp only [times, ih, bind_assoc, pure_bind, List.cons_append]

/-- Items are gone through in two parts. -/
theorem forEach_append (f : α → Draw β) (items more : List α) :
    forEach f (items ++ more) = do
      let first ← forEach f items
      let rest ← forEach f more
      return first ++ rest := by
  induction items with
  | nil => simp [forEach]
  | cons a items ih => simp only [List.cons_append, forEach, ih, bind_assoc, pure_bind]

theorem times_eq_forEach (f : α → Draw β) (a : α) (n : Nat) :
    times (f a) n = forEach f (List.replicate n a) := by
  induction n with
  | zero => rfl
  | succ n ih => simp only [times, ih, List.replicate_succ, forEach]

/-- The attempts that are left bound the number of rejected candidates; the draw of a candidate is
given all attempts each time. -/
theorem redrawFrom_eq_ok_iff {keep : α → Option β} {attempts left : Nat} {source rest : Source}
    {b : β} :
    redrawFrom (x attempts) keep left source = .ok (b, rest) ↔
      ∃ rejected mid a, rejected.length < left ∧ (∀ r ∈ rejected, keep r = none) ∧
        times x rejected.length attempts source = .ok (rejected, mid) ∧
        x attempts mid = .ok (a, rest) ∧ keep a = some b := by
  induction left generalizing source with
  | zero => simp [redrawFrom]
  | succ left ih =>
    rw [redrawFrom]
    constructor
    · intro h
      cases hcandidate : x attempts source with
      | error halt =>
        rw [hcandidate] at h
        cases h
      | ok p =>
        simp only [hcandidate] at h
        cases hkeep : keep p.1 with
        | some c =>
          simp only [hkeep] at h
          cases h
          exact ⟨[], source, p.1, Nat.succ_pos left, nofun, rfl, hcandidate, hkeep⟩
        | none =>
          simp only [hkeep] at h
          obtain ⟨rejected, mid, a, hlength, hnone, htimes, hlast, ha⟩ := ih.mp h
          exact ⟨p.1 :: rejected, mid, a, Nat.succ_lt_succ hlength,
            List.forall_mem_cons.mpr ⟨hkeep, hnone⟩,
            times_succ_eq_ok_iff.mpr ⟨_, _, _, _, hcandidate, htimes, rfl⟩, hlast, ha⟩
    · rintro ⟨rejected, mid, a, hlength, hnone, htimes, hlast, ha⟩
      cases rejected with
      | nil =>
        cases htimes
        simp only [hlast, ha]
      | cons r rejected =>
        obtain ⟨hr, hnone⟩ := List.forall_mem_cons.mp hnone
        obtain ⟨c, next, cs, _, hc, hcs, heq⟩ := times_succ_eq_ok_iff.mp htimes
        cases heq
        simp only [hc, hr]
        exact ih.mpr ⟨rejected, mid, a, Nat.lt_of_succ_lt_succ hlength, hnone, hcs, hlast, ha⟩

/-- A redraw keeps the first candidate that it can: those before it, drawn in a row, are all
rejected, and the source is left right after it. -/
theorem redraw_eq_ok_iff {keep : α → Option β} {attempts : Nat} {source rest : Source} {b : β} :
    redraw x keep attempts source = .ok (b, rest) ↔
      ∃ rejected mid a, rejected.length < attempts ∧ (∀ r ∈ rejected, keep r = none) ∧
        times x rejected.length attempts source = .ok (rejected, mid) ∧
        x attempts mid = .ok (a, rest) ∧ keep a = some b :=
  redrawFrom_eq_ok_iff

end ClassMill.Random.Draw
