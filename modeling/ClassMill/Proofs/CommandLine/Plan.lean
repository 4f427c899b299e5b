import ClassMill.CommandLine.Run
import ClassMill.Proofs.Random.Sequence
import ClassMill.Proofs.Statistics.Totals

/-!
# Plans that are carried out

A plan ends well exactly if each of its actions succeeds. The plan for a batch does so exactly
if all classes are drawn, their statistics are added up and the actions for the classes, and
then those for the totals, succeed one after another.
-/

namespace ClassMill.CommandLine

open ClassMill.Random

namespace Plan

/-- An action that fails ends the run with a failure. -/
theorem failureEnding_ne_done {a : Action} {s s' : Scene} (h : a.perform s = (s', false)) :
    a.failureEnding ≠ .done := by
  cases a with
  | print text => cases h
  | makeDirectories path => simp [Action.failureEnding, Action.failure?]
  | writeRecord path text => simp [Action.failureEnding, Action.failure?]
  | writeSource path text => simp [Action.failureEnding, Action.failure?]

theorem perform_act_eq_done_iff {a : Action} {rest : Unit → Plan} {s s' : Scene} :
    (Plan.act a rest).perform s = (s', .done) ↔
      ∃ mid, a.perform s = (mid, true) ∧ (rest ()).perform mid = (s', .done) := by
  rw [perform]
  constructor
  · intro h
    split at h
    · next mid hmid => exact ⟨mid, hmid, h⟩
    · next mid hmid => exact absurd (Prod.mk.inj h).2 (failureEnding_ne_done hmid)
  · rintro ⟨mid, hmid, hrest⟩
    rw [hmid]
    exact hrest

/-- The plan for a batch ends well exactly if all classes are drawn and added up and all actions
succeed in order. -/
theorem perform_ofClasses_eq_done_iff {g : ClassGenerator} {ctx : Context} {attempts count : Nat}
    {onClass : GeneratedClass → Action} {onTotals : BatchStatistics → List Action}
    {totals : BatchStatistics} {source : Source} {s s' : Scene} :
    (ofClasses g ctx attempts onClass onTotals count totals source).perform s = (s', .done) ↔
      ∃ outputs rest sum, Draw.times (g.generate ctx) count attempts source = .ok (outputs, rest) ∧
        totals.addAll (outputs.map Generated.statistics) = .ok sum ∧
        (ofActions .done (outputs.map (fun o => onClass o.file) ++ onTotals sum)).perform s =
          (s', .done) := by
  induction count generalizing totals source s with
  | zero => simp [ofClasses, Draw.times, BatchStatistics.addAll]
  | succ count ih =>
    rw [ofClasses]
    constructor
    · intro h
      split at h
      · cases h
      · next output mid houtput =>
        obtain ⟨scene, hact, hrest⟩ := perform_act_eq_done_iff.mp h
        split at hrest
        · cases hrest
        · next more hmore =>
          obtain ⟨outputs, rest, sum, hdrawn, hsum, hactions⟩ := ih.mp hrest
          refine ⟨output :: outputs, rest, sum, ?_, ?_, ?_⟩
          · exact Draw.times_succ_eq_ok_iff.mpr ⟨_, _, _, _, houtput, hdrawn, rfl⟩
          · exact BatchStatistics.addAll_cons_eq_ok_iff.mpr ⟨more, hmore, hsum⟩
          · exact perform_act_eq_done_iff.mpr ⟨scene, hact, hactions⟩
    · rintro ⟨outputs, rest, sum, hdrawn, hsum, hactions⟩
      obtain ⟨output, mid, outputs, rest, houtput, hothers, heq⟩ :=
        Draw.times_succ_eq_ok_iff.mp hdrawn
      cases heq
      obtain ⟨more, hmore, hsum⟩ := BatchStatistics.addAll_cons_eq_ok_iff.mp hsum
      obtain ⟨scene, hact, hactions⟩ := perform_act_eq_done_iff.mp hactions
      rw [houtput]
      apply perform_act_eq_done_iff.mpr
      refine ⟨scene, hact, ?_⟩
      rw [hmore]
      exact ih.mpr ⟨outputs, rest, sum, hothers, hsum, hactions⟩

end Plan

end ClassMill.CommandLine
