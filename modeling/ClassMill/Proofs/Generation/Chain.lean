import ClassMill.Generation.Block
import ClassMill.Proofs.Random.Range

/-!
# Drawn if chains and blocks

A chain is drawn for a count of branches: one branch less is conditional, but at least one, and
there is an unconditional branch exactly if the count is greater than one. What all drawn
conditions and all drawn bodies have in common holds of the conditions and bodies of the chain.
What passes from drawn bodies to drawn blocks holds of all drawn sections.
-/

namespace ClassMill

open ClassMill.Random

namespace Chain

/-- The conditions of the conditional branches, in order. -/
def heads : Chain → List Condition
  | .conditional condition _ rest => condition :: rest.heads
  | _ => []

/-- A chain for a count of branches, whose conditions have one property and whose bodies have
another. -/
structure Fits (count : Nat) (P : Condition → Prop) (Q : Section → Prop) (chain : Chain) :
    Prop where
  conditional : chain.conditionalCount = conditionalBranches count
  otherwise : chain.hasOtherwise = true ↔ 1 < count
  heads : ∀ c ∈ chain.heads, P c
  bodies : ∀ s ∈ chain.bodies, Q s

variable {count : Nat} {P : Condition → Prop} {Q : Section → Prop}

theorem Fits.conditional_pos {chain : Chain} (h : chain.Fits count P Q) :
    0 < chain.conditionalCount := by
  rw [h.conditional]
  exact Nat.le_max_left 1 _

/-- A chain has as many branches as it was drawn for, but at least one. -/
theorem Fits.branchCount_eq {chain : Chain} (h : chain.Fits count P Q) :
    chain.branchCount = max 1 count := by
  have hconditional := h.conditional
  have hotherwise := h.otherwise
  unfold conditionalBranches at hconditional
  rw [branchCount, hconditional]
  cases hlast : chain.hasOtherwise with
  | true =>
    have hseveral := hotherwise.mp hlast
    simp only [Bool.toNat_true]
    omega
  | false =>
    have hsingle : ¬ 1 < count := fun hlt => by simp [hotherwise.mpr hlt] at hlast
    simp only [Bool.toNat_false]
    omega

/-- The parts of a chain that is put together from its branches. -/
theorem ofBranches_fits {branches : List (Condition × Section)} {last : Option Section}
    (hlength : branches.length = conditionalBranches count)
    (hbranches : ∀ b ∈ branches, P b.1 ∧ Q b.2) (hlast : ∀ s ∈ last, Q s)
    (hsome : last.isSome = true ↔ 1 < count) : (ofBranches branches last).Fits count P Q := by
  have hparts : (ofBranches branches last).conditionalCount = branches.length ∧
      (ofBranches branches last).hasOtherwise = last.isSome ∧
      (ofBranches branches last).heads = branches.map Prod.fst ∧
      (ofBranches branches last).bodies = branches.map Prod.snd ++ last.toList := by
    clear hlength hbranches
    induction branches with
    | nil => cases last <;> exact ⟨rfl, rfl, rfl, rfl⟩
    | cons b branches ih =>
      obtain ⟨hcount, hotherwise, hheads, hbodies⟩ := ih
      have hchain : ofBranches (b :: branches) last =
          .conditional b.1 b.2 (ofBranches branches last) := rfl
      rw [hchain, conditionalCount, hasOtherwise, Chain.heads, Chain.bodies, hcount, hotherwise,
        hheads, hbodies]
      exact ⟨rfl, rfl, rfl, rfl⟩
  obtain ⟨hcount, hotherwise, hheads, hbodies⟩ := hparts
  constructor
  · rw [hcount, hlength]
  · rw [hotherwise, hsome]
  · intro c hc
    rw [hheads] at hc
    obtain ⟨b, hb, rfl⟩ := List.mem_map.mp hc
    exact (hbranches b hb).1
  · intro s hs
    rw [hbodies] at hs
    rcases List.mem_append.mp hs with hs | hs
    · obtain ⟨b, hb, rfl⟩ := List.mem_map.mp hs
      exact (hbranches b hb).2
    · exact hlast s (Option.mem_toList.mp hs)

/-- The last branch of a chain is drawn exactly if there are several branches. -/
theorem drawLast_yields {body : Draw Section} (hbody : body.Yields Q) :
    (drawLast body count).Yields fun last =>
      (∀ s ∈ last, Q s) ∧ (last.isSome = true ↔ 1 < count) := by
  unfold drawLast
  split
  · rename_i hseveral
    exact hbody.map fun s hs => ⟨by simpa using hs, by simp [hseveral]⟩
  · rename_i hsingle
    exact Draw.yields_pure ⟨by simp, by simp [hsingle]⟩

/-- A drawn chain fits a count that the policy can give. -/
theorem draw_yields_fits {ctx : Context} {body : Draw Section}
    (hcondition : (Condition.draw ctx).Yields P) (hbody : body.Yields Q) :
    (Chain.draw ctx body).Yields fun chain =>
      ∃ count : UInt64, (ctx.policy.branchCount.low ≤ count ∧
        count ≤ ctx.policy.branchCount.high) ∧ chain.Fits count.toNat P Q := by
  have hbranch : (drawBranch ctx body).Yields fun b => P b.1 ∧ Q b.2 :=
    hcondition.bind fun c hc => hbody.bind fun s hs => Draw.yields_pure ⟨hc, hs⟩
  exact (Distribution.sample_yields _).bind fun count hcount =>
    (hbranch.listOf _ _).bind fun branches hb => (drawLast_yields hbody).bind fun last hl =>
    Draw.yields_pure ⟨count, hcount, ofBranches_fits hb.1 hb.2 hl.1 hl.2⟩

/-- Every branch has one body. -/
theorem length_bodies (chain : Chain) : chain.bodies.length = chain.branchCount := by
  fun_induction Chain.bodies chain with
  | case1 => rfl
  | case2 body => rfl
  | case3 condition body rest ih =>
    rw [List.length_cons, ih, branchCount, branchCount, conditionalCount, hasOtherwise]
    omega

/-- A chain with a conditional branch has a body. -/
theorem bodies_ne_nil {chain : Chain} (h : 0 < chain.conditionalCount) : chain.bodies ≠ [] := by
  cases chain with
  | empty => cases h
  | «otherwise» body => cases h
  | conditional condition body rest => simp [Chain.bodies]

end Chain

/-- What loops have because their bodies have something, drawn loops have. -/
theorem Section.drawLoopOf_yields_of_body {ctx : Context} {body : Draw Section}
    {P Q : Section → Prop} (hbody : body.Yields Q)
    (h : ∀ counter start stop s, Q s → P (loop counter start stop s)) :
    (drawLoopOf ctx body).Yields P :=
  (Draw.yields_true _).bind fun _ _ => (Draw.yields_true _).bind fun _ _ =>
    (Draw.yields_true _).bind fun _ _ => (Draw.yields_true _).bind fun _ _ =>
    hbody.bind fun _ hs => Draw.yields_pure (h _ _ _ _ hs)

/-- A property of sections and their levels holds of all drawn sections if leaves have it and it
passes from the bodies of blocks, one level below, to the blocks. -/
theorem Section.draw_yields_of_bodies {ctx : Context} {Q : Nat → Section → Prop}
    (hleaf : ∀ statement, Q 0 (.leaf statement))
    (hbranch : ∀ n, ∀ body : Draw Section, body.Yields (Q n) →
      (drawBranchOf ctx body).Yields (Q (n + 1)))
    (hloop : ∀ n, ∀ body : Draw Section, body.Yields (Q n) →
      (drawLoopOf ctx body).Yields (Q (n + 1)))
    (levels : Nat) : (draw ctx levels).Yields (Q levels) := by
  induction levels with
  | zero =>
    exact (Draw.yields_true _).bind fun statement _ => Draw.yields_pure (hleaf statement)
  | succ levels ih =>
    refine (Draw.yields_true _).bind fun kind _ => ?_
    cases kind with
    | branch => exact hbranch levels _ ih
    | loop => exact hloop levels _ ih

end ClassMill
