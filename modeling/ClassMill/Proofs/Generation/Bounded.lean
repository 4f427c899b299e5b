import ClassMill.Proofs.Generation.Depth
import ClassMill.Proofs.Generation.Faults
import ClassMill.Proofs.Generation.Governed

/-!
# Sections with any budget under an accepted policy

An accepted policy keeps its numbers small, so the last value of a loop is never too large for a
word. Unless names or conditions are excessively long, a section is then drawn without faults for
every budget of levels, also for the least, and its numbers stay within fixed bounds.
-/

namespace ClassMill

open ClassMill.Random

/-- The numbers of a comparison are literals between one and a million. -/
def Atom.Bounded : Atom → Prop
  | .integers left _ right =>
    (1 ≤ left.toNat ∧ left.toNat ≤ 1000000) ∧ 1 ≤ right.toNat ∧ right.toNat ≤ 1000000
  | _ => True

/-- A loop goes up from at least one to at most two million. -/
def Section.Bounded : Section → Prop
  | .loop _ start stop _ => 1 ≤ start.toNat ∧ start < stop ∧ stop.toNat ≤ 2000000
  | _ => True

/-- All loops within a section and all comparisons in its conditions have bounded numbers. -/
structure Section.BoundedThroughout (s : Section) : Prop where
  loops : ∀ t ∈ s.nodes, t.Bounded
  comparisons : ∀ c ∈ s.conditions, ∀ clause ∈ c.clauses, clause.atom.Bounded

theorem Distribution.Covers.of_within {d : Distribution} {n : Nat} {low high : UInt64}
    (h : d.Covers n) (hwithin : d.within low high = true) : low.toNat ≤ n ∧ n ≤ high.toNat := by
  obtain ⟨-, hlow, hhigh⟩ := within_iff.mp hwithin
  exact ⟨(UInt64.le_iff_toNat_le.mp hlow).trans h.1, h.2.trans (UInt64.le_iff_toNat_le.mp hhigh)⟩

variable {p : Policy}

theorem Atom.Governed.bounded (hp : p.Accepted) {atom : Atom} (h : atom.Governed p) :
    atom.Bounded := by
  cases atom with
  | literal value => trivial
  | booleans left op right => trivial
  | integers left op right =>
    exact ⟨h.1.of_within hp.integerLiteral, h.2.of_within hp.integerLiteral⟩

theorem Section.Governed.bounded (hp : p.Accepted) {s : Section} (h : s.Governed p) :
    s.Bounded := by
  cases s with
  | leaf statement => trivial
  | branch chain => trivial
  | loop counter start stop body =>
    obtain ⟨hstart, horder, span, hspan, hstop⟩ := h
    have hlimit : Policy.maxLiteral.toNat = 1000000 := rfl
    obtain ⟨hfirst, hlast⟩ := hstart.of_within hp.loopStart
    obtain ⟨-, hwidth⟩ := hspan.of_within hp.loopSpan
    refine ⟨hfirst, horder, ?_⟩
    omega

theorem Section.GovernedThroughout.bounded (hp : p.Accepted) {s : Section}
    (h : s.GovernedThroughout p) : s.BoundedThroughout where
  loops t ht := (h.nodes t ht).bounded hp
  comparisons c hc clause hclause := ((h.conditions c hc).atoms clause hclause).bounded hp

/-- Under an accepted policy without excessive names and conditions, a section is drawn without
faults for every budget, although blocks take one level off the budget of their bodies; its loops
go up within two million and its comparisons are of literals up to a million. -/
theorem Section.drawAt_bounded {d : Policy.Draft} {ctx : Context}
    (hpolicy : d.build = .ok ctx.policy)
    (hname : ctx.policy.loopVariableLength.toNat ≤ 2 ^ 32)
    (hclauses : ctx.policy.clauseCount.high.toNat ≤ 2 ^ 32) (budget : Int32) :
    (drawAt ctx budget =
      if budget ≤ 0 then drawLeaf ctx
      else ctx.chooseBlockKind >>= drawBlock ctx (drawBody ctx budget)) ∧
    (drawAt ctx budget).Safe ∧ (drawAt ctx budget).Yields BoundedThroughout := by
  have haccepted := Policy.Draft.accepted_of_build hpolicy
  have hlimit : storageLimit = 2 ^ 63 - 1 := rfl
  have hcounter : (ctx.chooseName .loopVariable).Safe := by
    have hending : Name.methodSuffix.length = 7 := rfl
    have hlength : ctx.policy.nameLength .loopVariable = ctx.policy.loopVariableLength := rfl
    rw [Context.name_safe_iff, hending, hlength]
    omega
  have hfits : (ctx.policy.clauseCount.high.toNat - 1) * Condition.joinedSize ≤ storageLimit := by
    rw [Condition.joinedSize]
    omega
  exact ⟨drawAt_eq ctx budget, draw_safe haccepted hcounter fun _ => hfits,
    (draw_yields_governed ctx _).mono fun _ hs => hs.bounded haccepted⟩

/-- An accepted policy whose loops go as far as loops can go. -/
def Policy.farReaching : Policy :=
  { default with
    name := "far reaching"
    loopStart := .const 1000000
    loopSpan := .const 1000000
    clauseCount := .uniform 1 4294967296 }

/-- No budget is too small, and a run returns a loop. -/
theorem Section.drawAt_bounded_farReaching :
    (Policy.Draft.ofPolicy .farReaching).build = .ok .farReaching ∧
      Policy.farReaching.loopVariableLength.toNat ≤ 2 ^ 32 ∧
      Policy.farReaching.clauseCount.high.toNat ≤ 2 ^ 32 ∧
      (drawAt ⟨.farReaching, .core, 0⟩ Int32.minValue).Safe ∧
      ∃ s rest, drawAt ⟨.farReaching, .core, 0⟩ 1 1 (.stepper 2147483648 0) = .ok (s, rest) ∧
        s.kind = .loop ∧ s.BoundedThroughout := by
  have haccepted : Policy.farReaching.Accepted :=
    Policy.brokenRule?_eq_none_iff.mp (by decide +kernel)
  let ctx : Context := ⟨.farReaching, .core, 0⟩
  have hbuilt : (Policy.Draft.ofPolicy .farReaching).build = .ok ctx.policy :=
    haccepted.build_ofPolicy
  have hname : ctx.policy.loopVariableLength.toNat ≤ 2 ^ 32 := by decide
  have hclauses : ctx.policy.clauseCount.high.toNat ≤ 2 ^ 32 := by decide
  obtain ⟨-, hsafe, -⟩ := drawAt_bounded hbuilt hname hclauses Int32.minValue
  obtain ⟨-, -, hyields⟩ := drawAt_bounded hbuilt hname hclauses 1
  have hkind : ((drawAt ctx 1 1 (.stepper 2147483648 0)).toOption.map fun r => r.1.kind) =
      some .loop := by decide +kernel
  cases hrun : drawAt ctx 1 1 (.stepper 2147483648 0) with
  | error halt =>
    rw [hrun] at hkind
    cases hkind
  | ok r =>
    rw [hrun] at hkind
    exact ⟨hbuilt, hname, hclauses, hsafe, r.1, r.2, rfl, Option.some.inj hkind,
      hyields _ _ _ _ hrun⟩

end ClassMill
