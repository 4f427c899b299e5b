import ClassMill.Policy.Named
import ClassMill.Ron.Types

/-!
# Accepted policies

A policy is accepted if it meets every rule. Drafts that are built and policy texts that are
read give accepted policies only, and every accepted policy can be built from a draft.
-/

namespace ClassMill.Policy

/-- A policy that meets every rule. -/
def Accepted (p : Policy) : Prop := ∀ rule : Rule, rule.holds p = true

theorem Rule.mem_all (rule : Rule) : rule ∈ Rule.all := by
  cases rule <;> decide

theorem brokenRule?_eq_none_iff {p : Policy} : p.brokenRule? = none ↔ p.Accepted := by
  simp [brokenRule?, List.find?_eq_none, Accepted, Rule.mem_all]

theorem accepted_default : default.Accepted := brokenRule?_eq_none_iff.mp (by decide +kernel)

/-- Accepting a policy gives the policy itself, provided that it meets every rule. -/
theorem accept_eq_ok_iff {p q : Policy} : p.accept = .ok q ↔ p.Accepted ∧ p = q := by
  unfold accept
  constructor
  · intro h
    split at h
    · rename_i hnone
      exact ⟨brokenRule?_eq_none_iff.mp hnone, by cases h; rfl⟩
    · cases h
  · rintro ⟨h, rfl⟩
    rw [brokenRule?_eq_none_iff.mpr h]

/-- A policy is not accepted exactly because of the first rule that it breaks. -/
theorem accept_eq_error_iff {p : Policy} {reason : Rejection} :
    p.accept = .error reason ↔ ∃ rule, p.brokenRule? = some rule ∧ reason = .broken rule := by
  unfold accept
  cases p.brokenRule? with
  | none => simp
  | some rule => simp [eq_comm]

/-- A draft with all values of a policy becomes the policy if that is accepted. -/
theorem Draft.build_ofPolicy (p : Policy) : (ofPolicy p).build = p.accept := rfl

theorem Draft.accepted_of_build {d : Draft} {p : Policy} (h : d.build = .ok p) :
    p.Accepted := by
  unfold build at h
  cases hcomplete : d.complete with
  | error rejection =>
    rw [hcomplete] at h
    cases h
  | ok q =>
    rw [hcomplete] at h
    obtain ⟨haccepted, rfl⟩ := accept_eq_ok_iff.mp h
    exact haccepted

theorem Accepted.build_ofPolicy {p : Policy} (h : p.Accepted) :
    (Draft.ofPolicy p).build = .ok p := by
  rw [Draft.build_ofPolicy]
  exact accept_eq_ok_iff.mpr ⟨h, rfl⟩

/-- The accepted policies are those that some draft builds. -/
theorem accepted_iff_exists_build {p : Policy} :
    p.Accepted ↔ ∃ d : Draft, d.build = .ok p := by
  constructor
  · exact fun h => ⟨_, h.build_ofPolicy⟩
  · rintro ⟨d, h⟩
    exact d.accepted_of_build h

theorem accepted_of_ofText {text : String} {p : Policy} (h : ofText text = .ok p) :
    p.Accepted := by
  unfold ofText at h
  split at h
  · cases h
  · rename_i q _
    cases hbuild : (Draft.ofPolicy q).build with
    | error rejection =>
      rw [hbuild] at h
      cases h
    | ok r =>
      rw [hbuild] at h
      cases h
      exact Draft.accepted_of_build hbuild

theorem accepted_of_mem_named {p : Policy} (h : p ∈ named) : p.Accepted := by
  have hnamed : ∀ q ∈ named, q.brokenRule? = none := by decide +kernel
  exact brokenRule?_eq_none_iff.mp (hnamed p h)

theorem accepted_of_resolve {name : Option String} {p : Policy} (h : resolve name = .ok p) :
    p.Accepted := by
  unfold resolve at h
  split at h
  · cases h
    exact accepted_default
  · split at h
    · next hfound =>
      cases h
      exact accepted_of_mem_named (List.mem_of_find?_eq_some hfound)
    · cases h

namespace Accepted

variable {p : Policy} (h : p.Accepted)

include h

theorem branchCount : p.branchCount.within 1 3 = true := h .branchCount

theorem clauseCount : p.clauseCount.within 1 18446744073709551615 = true := h .clauseCount

theorem loopStart : p.loopStart.within 1 maxLiteral = true := h .loopStart

theorem loopSpan : p.loopSpan.within 1 maxLiteral = true := h .loopSpan

theorem integerLiteral : p.integerLiteral.within 1 maxLiteral = true := h .integerLiterals

theorem localCount : p.localCount.within 1 4 = true := by
  have hcounts := h .methodCounts
  simp only [Rule.holds, Bool.and_eq_true] at hcounts
  exact hcounts.1

theorem sectionCount : p.sectionCount.within 1 4 = true := by
  have hcounts := h .methodCounts
  simp only [Rule.holds, Bool.and_eq_true] at hcounts
  exact hcounts.2

theorem realLiteral :
    p.realLiteral.1.isFinite = true ∧ p.realLiteral.2.isFinite = true ∧
      p.realLiteral.1 < p.realLiteral.2 := by
  have hreals := h .realLiterals
  simpa only [Rule.holds, Bool.and_eq_true, decide_eq_true_eq, and_assoc] using hreals

/-- The chances of an accepted policy are probabilities. -/
theorem chances :
    (0.0 ≤ p.negation ∧ p.negation ≤ 1.0) ∧ (0.0 ≤ p.truth ∧ p.truth ≤ 1.0) ∧
      0.0 ≤ p.readonlyChance ∧ p.readonlyChance ≤ 1.0 := by
  have hchances := h .probabilities
  simpa only [Rule.holds, Rule.isProbability, Bool.and_eq_true, decide_eq_true_eq,
    and_assoc] using hchances

end Accepted

end ClassMill.Policy
