import ClassMill.Proofs.CommandLine.Plan
import ClassMill.Proofs.Policy.Accepted
import Mathlib.Tactic.Common

/-!
# Requests that are refused

The checks of a run look at the number of classes first and at the policy after it. Here the
reasons for which a request is refused are listed in terms of what was asked for and of the file
that was to be read, and the checks are shown to find exactly these.
-/

namespace ClassMill

namespace Policy

theorem find?_eq_none_iff {name : String} : find? name = none ↔ name ∉ names := by
  simp [find?, names]

theorem resolve_eq_error_iff {name : Option String} {reason : Refusal} :
    resolve name = .error reason ↔
      ∃ unknown, name = some unknown ∧ unknown ∉ names ∧ reason = .unknownPolicy unknown names := by
  unfold resolve
  cases name with
  | none => simp
  | some name =>
    cases hfound : find? name with
    | none => simp [hfound, find?_eq_none_iff.mp hfound, eq_comm]
    | some p =>
      have hknown : name ∈ names := by
        by_contra hnot
        rw [find?_eq_none_iff.mpr hnot] at hfound
        cases hfound
      simp [hfound, hknown]

/-- A text is refused if it denotes no policy, or else for the first rule that its policy
breaks. -/
theorem ofText_eq_error_iff {text : String} {reason : Refusal} :
    ofText text = .error reason ↔
      (Ron.read Policy text = none ∧ reason = .malformedPolicy) ∨
      ∃ p rule, Ron.read Policy text = some p ∧ p.brokenRule? = some rule ∧
        reason = .rejectedPolicy (.broken rule) := by
  unfold ofText
  cases Ron.read Policy text with
  | none => simp [eq_comm]
  | some p =>
    simp only [Draft.build_ofPolicy, Except.mapError_eq_error, accept_eq_error_iff]
    constructor
    · rintro ⟨rejection, ⟨rule, hrule, rfl⟩, rfl⟩
      exact .inr ⟨p, rule, rfl, hrule, rfl⟩
    · rintro (⟨hnone, -⟩ | ⟨q, rule, hq, hrule, rfl⟩)
      · cases hnone
      · cases hq
        exact ⟨_, ⟨rule, hrule, rfl⟩, rfl⟩

end Policy

namespace CommandLine

/-- Why the policy that is asked for cannot be had. -/
inductive Arguments.PolicyRefused (args : Arguments) (read : String → Option String) :
    Failure → Prop
  /-- No policy has the name. -/
  | unknown {name : String} (hfile : args.policyFile = none) (hname : args.policy = some name)
      (h : name ∉ Policy.names) :
      PolicyRefused args read (.refused (.unknownPolicy name Policy.names))
  /-- There is a name and a file. -/
  | conflicting (hfile : args.policyFile.isSome) (hname : args.policy.isSome) :
      PolicyRefused args read .conflictingPolicies
  /-- The file cannot be read. -/
  | unreadable {path : String} (hfile : args.policyFile = some path) (hname : args.policy = none)
      (h : read path = none) : PolicyRefused args read (.unreadable path)
  /-- The file does not hold a policy. -/
  | malformed {path text : String} (hfile : args.policyFile = some path)
      (hname : args.policy = none) (htext : read path = some text)
      (h : Ron.read Policy text = none) : PolicyRefused args read (.refused .malformedPolicy)
  /-- The policy in the file breaks a rule. -/
  | rejected {path text : String} {policy : Policy} {rule : Policy.Rule}
      (hfile : args.policyFile = some path) (hname : args.policy = none)
      (htext : read path = some text) (hpolicy : Ron.read Policy text = some policy)
      (h : policy.brokenRule? = some rule) :
      PolicyRefused args read (.refused (.rejectedPolicy (.broken rule)))

/-- Why a request is refused. -/
inductive Arguments.Refused (args : Arguments) (read : String → Option String) : Failure → Prop
  /-- The number of classes is not positive. -/
  | count (h : args.classes ≤ 0) : Refused args read (.refused (.invalidCount args.classes))
  /-- There is a number of classes but no policy. -/
  | policy {reason : Failure} (hcount : 0 < args.classes)
      (h : args.PolicyRefused read reason) : Refused args read reason

namespace Arguments

variable {args : Arguments} {read : String → Option String} {reason : Failure}

theorem PolicyRefused.resolvePolicy_eq (h : args.PolicyRefused read reason) :
    args.resolvePolicy read = .error reason := by
  unfold resolvePolicy
  cases h with
  | unknown hfile hname hunknown =>
    rw [hfile]
    exact Except.mapError_eq_error.mpr
      ⟨_, Policy.resolve_eq_error_iff.mpr ⟨_, hname, hunknown, rfl⟩, rfl⟩
  | conflicting hfile hname =>
    obtain ⟨path, hpath⟩ := Option.isSome_iff_exists.mp hfile
    simp [hpath, hname]
  | unreadable hfile hname htext => simp [hfile, hname, htext]
  | malformed hfile hname htext hnone =>
    have hrefused := Policy.ofText_eq_error_iff.mpr (.inl ⟨hnone, rfl⟩)
    simp only [hfile, hname, htext]
    exact Except.mapError_eq_error.mpr ⟨_, hrefused, rfl⟩
  | rejected hfile hname htext hpolicy hbroken =>
    have hrefused := Policy.ofText_eq_error_iff.mpr (.inr ⟨_, _, hpolicy, hbroken, rfl⟩)
    simp only [hfile, hname, htext]
    exact Except.mapError_eq_error.mpr ⟨_, hrefused, rfl⟩

theorem policyRefused_of_resolvePolicy (h : args.resolvePolicy read = .error reason) :
    args.PolicyRefused read reason := by
  unfold resolvePolicy at h
  split at h
  · next hfile =>
    obtain ⟨refusal, hrefusal, rfl⟩ := Except.mapError_eq_error.mp h
    obtain ⟨name, hname, hunknown, rfl⟩ := Policy.resolve_eq_error_iff.mp hrefusal
    exact .unknown hfile hname hunknown
  · next path hfile =>
    split at h
    · next hname =>
      cases h
      exact .conflicting (by simp [hfile]) hname
    · next hname =>
      have hnone : args.policy = none := by simpa using hname
      split at h
      · next hunreadable =>
        cases h
        exact .unreadable hfile hnone hunreadable
      · next text htext =>
        obtain ⟨refusal, hrefusal, rfl⟩ := Except.mapError_eq_error.mp h
        rcases Policy.ofText_eq_error_iff.mp hrefusal with
          ⟨hmalformed, rfl⟩ | ⟨p, rule, hpolicy, hbroken, rfl⟩
        · exact .malformed hfile hnone htext hmalformed
        · exact .rejected hfile hnone htext hpolicy hbroken

theorem classCount_eq_error_iff {count : Int64} {reason : Refusal} :
    classCount count = .error reason ↔ count ≤ 0 ∧ reason = .invalidCount count := by
  unfold classCount
  split
  · next h => simp [h, eq_comm]
  · next h => simp [h]

/-- The checks of a run find exactly the reasons for which its request is refused. -/
theorem checked_eq_error_iff : args.checked read = .error reason ↔ args.Refused read reason := by
  unfold checked
  rw [Except.bind_eq_error, Except.mapError_eq_error]
  constructor
  · rintro (⟨refusal, hrefusal, rfl⟩ | ⟨count, hcount, hrest⟩)
    · obtain ⟨hcount, rfl⟩ := classCount_eq_error_iff.mp hrefusal
      exact .count hcount
    · have hpositive : 0 < args.classes := by
        by_contra hnot
        have hfault := classCount_eq_error_iff.mpr ⟨Int64.not_lt.mp hnot, rfl⟩
        rw [Except.mapError_eq_ok, hfault] at hcount
        cases hcount
      rcases Except.bind_eq_error.mp hrest with hpolicy | ⟨policy, -, hdone⟩
      · exact .policy hpositive (policyRefused_of_resolvePolicy hpolicy)
      · cases hdone
  · rintro (hcount | ⟨hcount, hpolicy⟩)
    · exact .inl ⟨_, classCount_eq_error_iff.mpr ⟨hcount, rfl⟩, rfl⟩
    · have hok : (classCount args.classes).mapError Failure.refused =
          .ok args.classes.toInt.toNat := by
        rw [classCount, if_neg (Int64.not_le.mpr hcount)]
        rfl
      refine .inr ⟨_, hok, ?_⟩
      exact Except.bind_eq_error.mpr (.inl hpolicy.resolvePolicy_eq)

end Arguments

end CommandLine

end ClassMill
