import ClassMill.Generation.Member
import ClassMill.Proofs.Generation.Chain
import ClassMill.Proofs.Statistics.Recount

/-!
# What a policy governs

Every count and every integer of a drawn method comes from the distribution that the policy has
for it: members, literals, the ends of loops, the branches of if chains and the clauses of
conditions. This holds at every place of the tree, whether or not the policy is accepted.
-/

namespace ClassMill

open ClassMill.Random

variable {p : Policy} {ctx : Context}

/-- Whether a number lies between the ends of a distribution. -/
def Distribution.Covers (d : Distribution) (n : Nat) : Prop := d.low.toNat ≤ n ∧ n ≤ d.high.toNat

theorem Distribution.sample_yields_covers (d : Distribution) :
    d.sample.Yields fun v => d.Covers v.toNat :=
  d.sample_yields.mono fun _ hv =>
    ⟨UInt64.le_iff_toNat_le.mp hv.1, UInt64.le_iff_toNat_le.mp hv.2⟩

/-- A checked sum does not wrap around. -/
theorem toNat_of_checkedAdd {a b sum : UInt64} (h : checkedAdd a b = .ok sum) :
    sum.toNat = a.toNat + b.toNat := by
  have hsize : UInt64.size = 2 ^ 64 := rfl
  unfold checkedAdd at h
  split at h
  · cases h
    rw [UInt64.toNat_add, Nat.mod_eq_of_lt (by omega)]
  · cases h

/-! ## Conditions -/

/-- The numbers of a comparison of integers are literals of the policy. -/
def Atom.Governed (p : Policy) : Atom → Prop
  | .integers left _ right =>
    p.integerLiteral.Covers left.toNat ∧ p.integerLiteral.Covers right.toNat
  | _ => True

/-- The clauses of a condition, in order. -/
def Condition.clauses (c : Condition) : List Clause := c.first :: c.rest.map Prod.snd

/-- A condition has as many clauses as the policy can ask for, but at least one, and its numbers
are literals of the policy. -/
structure Condition.Governed (p : Policy) (c : Condition) : Prop where
  size : ∃ count, p.clauseCount.Covers count ∧ c.size = max 1 count
  atoms : ∀ clause ∈ c.clauses, clause.atom.Governed p

theorem Clause.draw_yields_governed (ctx : Context) :
    (Clause.draw ctx).Yields fun clause => clause.atom.Governed ctx.policy := by
  have hinteger : ctx.chooseInteger.Yields fun v => ctx.policy.integerLiteral.Covers v.toNat :=
    Distribution.sample_yields_covers _
  have hatom : ∀ kind, (Atom.draw ctx kind).Yields (Atom.Governed ctx.policy) := by
    intro kind
    cases kind with
    | literal => exact (Draw.yields_true _).bind fun _ _ => Draw.yields_pure trivial
    | booleans =>
      exact (Draw.yields_true _).bind fun _ _ => (Draw.yields_true _).bind fun _ _ =>
        (Draw.yields_true _).bind fun _ _ => Draw.yields_pure trivial
    | integers =>
      exact hinteger.bind fun left hleft => (Draw.yields_true _).bind fun op _ =>
        hinteger.bind fun right hright => Draw.yields_pure ⟨hleft, hright⟩
  exact (Draw.yields_true _).bind fun _ _ => (Draw.yields_true _).bind fun kind _ =>
    (hatom kind).bind fun atom ha => Draw.yields_pure ha

theorem Condition.draw_yields_governed (ctx : Context) :
    (Condition.draw ctx).Yields (Condition.Governed ctx.policy) := by
  have hclause := Clause.draw_yields_governed ctx
  have hjoined : (drawJoined ctx).Yields fun joined => joined.2.atom.Governed ctx.policy :=
    (Draw.yields_true _).bind fun _ _ => hclause.bind fun clause hc => Draw.yields_pure hc
  refine (Distribution.sample_yields_covers _).bind fun count hcount => hclause.bind fun first hf =>
    (hjoined.listOf _ _).bind fun rest hrest => Draw.yields_pure ⟨⟨count.toNat, hcount, ?_⟩, ?_⟩
  · rw [Condition.size, hrest.1]
    omega
  · intro clause hmem
    rcases List.mem_cons.mp hmem with rfl | hmem
    · exact hf
    · obtain ⟨joined, hj, rfl⟩ := List.mem_map.mp hmem
      exact hrest.2 joined hj

/-! ## Sections -/

/-- A chain has as many branches as the policy can ask for, but at least one; all but the first
and the unconditional last one are alternatives, and the last one is there in longer chains. -/
def Chain.Governed (p : Policy) (chain : Chain) : Prop :=
  ∃ count, p.branchCount.Covers count ∧ chain.branchCount = max 1 count ∧
    chain.elseIfCount = count - 2 ∧ (chain.hasOtherwise = true ↔ 1 < count)

/-- The numbers that a section has itself come from the distributions of the policy. A loop goes
up from its start by a span, which is at least one. -/
def Section.Governed (p : Policy) : Section → Prop
  | .leaf _ => True
  | .branch chain => chain.Governed p
  | .loop _ start stop _ =>
    p.loopStart.Covers start.toNat ∧ start < stop ∧
      ∃ span, p.loopSpan.Covers span ∧ stop.toNat = start.toNat + max 1 span

/-- The sections and conditions within a section are governed by the policy. -/
structure Section.GovernedThroughout (p : Policy) (s : Section) : Prop where
  nodes : ∀ t ∈ s.nodes, t.Governed p
  conditions : ∀ c ∈ s.conditions, c.Governed p

theorem Chain.Fits.governed {count : Nat} {P : Condition → Prop} {Q : Section → Prop}
    {chain : Chain} (h : chain.Fits count P Q) (hcount : p.branchCount.Covers count) :
    chain.Governed p := by
  refine ⟨count, hcount, h.branchCount_eq, ?_, h.otherwise⟩
  rw [elseIfCount, h.conditional, conditionalBranches]
  omega

theorem Chain.mem_nodes {chain : Chain} {t : Section} :
    t ∈ chain.nodes ↔ ∃ body ∈ chain.bodies, t ∈ body.nodes := by
  rw [Chain.nodes_eq, List.mem_flatMap]

theorem Chain.mem_conditions {chain : Chain} {c : Condition} :
    c ∈ chain.conditions ↔ c ∈ chain.heads ∨ ∃ body ∈ chain.bodies, c ∈ body.conditions := by
  fun_induction Chain.bodies chain with
  | case1 => simp [Chain.conditions, Chain.heads]
  | case2 body => simp [Chain.conditions, Chain.heads]
  | case3 condition body rest ih => simp [Chain.conditions, Chain.heads, ih]; tauto

namespace Section

variable {body : Draw Section}

theorem drawBranchOf_yields_governed (hbody : body.Yields (GovernedThroughout ctx.policy)) :
    (drawBranchOf ctx body).Yields (GovernedThroughout ctx.policy) := by
  refine (Chain.draw_yields_fits (Condition.draw_yields_governed ctx) hbody).bind
    fun chain hchain => Draw.yields_pure ?_
  obtain ⟨count, ⟨hlow, hhigh⟩, hfits⟩ := hchain
  have hcovers : ctx.policy.branchCount.Covers count.toNat :=
    ⟨UInt64.le_iff_toNat_le.mp hlow, UInt64.le_iff_toNat_le.mp hhigh⟩
  constructor
  · intro t ht
    rcases List.mem_cons.mp ht with rfl | ht
    · exact hfits.governed hcovers
    · obtain ⟨s, hs, ht⟩ := Chain.mem_nodes.mp ht
      exact (hfits.bodies s hs).nodes t ht
  · intro c hc
    rcases Chain.mem_conditions.mp hc with hc | ⟨s, hs, hc⟩
    · exact hfits.heads c hc
    · exact (hfits.bodies s hs).conditions c hc

theorem drawLoopOf_yields_governed (hbody : body.Yields (GovernedThroughout ctx.policy)) :
    (drawLoopOf ctx body).Yields (GovernedThroughout ctx.policy) := by
  have hspan : ctx.chooseLoopSpan.Yields fun v =>
      ∃ span, ctx.policy.loopSpan.Covers span ∧ v.toNat = max 1 span := by
    refine (Distribution.sample_yields_covers _).bind fun v hv =>
      Draw.yields_pure ⟨v.toNat, hv, ?_⟩
    have hone : (1 : UInt64).toNat = 1 := rfl
    rw [UInt64.max_def]
    split <;> rename_i h <;> rw [UInt64.le_iff_toNat_le, hone] at h <;> omega
  refine (Draw.yields_true _).bind fun counter _ =>
    (Distribution.sample_yields_covers _).bind fun start hstart => hspan.bind fun v hv =>
    (Draw.yields_ofExcept _).bind fun stop hsum => hbody.bind fun s hs => Draw.yields_pure ?_
  obtain ⟨span, hcovers, hv⟩ := hv
  have hstop := toNat_of_checkedAdd hsum
  refine ⟨fun t ht => ?_, hs.conditions⟩
  rcases List.mem_cons.mp ht with rfl | ht
  · refine ⟨hstart, ?_, span, hcovers, by rw [hstop, hv]⟩
    rw [UInt64.lt_iff_toNat_lt]
    omega
  · exact hs.nodes t ht

/-- A drawn section is governed by the policy throughout, whatever the levels. -/
theorem draw_yields_governed (ctx : Context) (levels : Nat) :
    (draw ctx levels).Yields (GovernedThroughout ctx.policy) := by
  have hleaf : ∀ statement, (leaf statement).GovernedThroughout ctx.policy := by
    intro statement
    refine ⟨fun t ht => ?_, by simp [Section.conditions]⟩
    rw [List.mem_singleton.mp ht]
    trivial
  exact draw_yields_of_bodies hleaf (fun _ _ hbody => drawBranchOf_yields_governed hbody)
    (fun _ _ hbody => drawLoopOf_yields_governed hbody) levels

end Section

/-! ## Methods -/

/-- An integer that a local variable starts with is a literal of the policy. -/
def Initializer.Governed (p : Policy) : Initializer → Prop
  | .integer value => p.integerLiteral.Covers value.toNat
  | _ => True

/-- All counts and integers of a method come from the distributions that the policy has for
them, at every place of the method. -/
structure Method.Governed (p : Policy) (m : Method) : Prop where
  localCount : p.localCount.Covers m.locals.length
  sectionCount : p.sectionCount.Covers m.sections.length
  result : p.integerLiteral.Covers m.result.toNat
  initials : ∀ l ∈ m.locals, l.initial.Governed p
  sections : ∀ s ∈ m.sections, s.GovernedThroughout p

theorem Local.draw_yields_governed (ctx : Context) :
    (Local.draw ctx).Yields fun l => l.initial.Governed ctx.policy := by
  have hinitial : ∀ kind, (Initializer.draw ctx kind).Yields (Initializer.Governed ctx.policy) := by
    intro kind
    cases kind with
    | quotedBoolean => exact (Draw.yields_true _).bind fun _ _ => Draw.yields_pure trivial
    | integer =>
      exact (Distribution.sample_yields_covers _).bind fun v hv => Draw.yields_pure hv
    | real => exact (Draw.yields_true _).bind fun _ _ => Draw.yields_pure trivial
    | quotedName => exact (Draw.yields_true _).bind fun _ _ => Draw.yields_pure trivial
  exact (Draw.yields_true _).bind fun name _ => (Draw.yields_true _).bind fun kind _ =>
    (hinitial kind).bind fun initial hi => Draw.yields_pure hi

/-- A method that is drawn under a policy, accepted or not, is governed by it. -/
theorem Method.draw_governed {attempts : Nat} {source rest : Source} {m : Method}
    (h : Method.draw ctx attempts source = .ok (m, rest)) : m.Governed ctx.policy := by
  have hlocals := (Local.draw_yields_governed ctx).listOf Method.localSize
  have hsections : ∀ count, (Draw.listOf Method.sectionSize
      (Section.drawAt ctx ctx.policy.maxDepth) count).Yields fun sections =>
        sections.length = count ∧ ∀ s ∈ sections, s.GovernedThroughout ctx.policy :=
    (Section.draw_yields_governed ctx _).listOf Method.sectionSize
  have hmethod : (Method.draw ctx).Yields (Method.Governed ctx.policy) := by
    refine (Draw.yields_true _).bind fun name _ =>
      (Distribution.sample_yields_covers _).bind fun localCount hl =>
      (Distribution.sample_yields_covers _).bind fun sectionCount hs =>
      (hlocals localCount.toNat).bind fun locals hlocal =>
      (hsections sectionCount.toNat).bind fun sections hsection =>
      (Distribution.sample_yields_covers _).bind fun result hresult => Draw.yields_pure ?_
    exact ⟨by rwa [hlocal.1], by rwa [hsection.1], hresult, hlocal.2, hsection.2⟩
  exact hmethod _ _ _ _ h

/-- A policy that is not accepted: chains have too many branches, and conditions and spans have
less than they need. -/
def Policy.unruly : Policy :=
  { default with
    name := "unruly"
    maxDepth := 1
    sectionCount := .const 2
    branchCount := .const 4
    clauseCount := .const 0
    loopStart := .const 7
    loopSpan := .const 0
    integerLiteral := .uniform 12 15
    localCount := .const 1 }

/-- A run that returns a method with a loop and an if chain. -/
theorem Method.draw_governed_unruly :
    Policy.unruly.brokenRule? = some .branchCount ∧
      ∃ m rest, Method.draw ⟨.unruly, .core, 0⟩ 3
          (.stepper 7919023757 15739147485665885829) = .ok (m, rest) ∧
        m.sections.map Section.kind = [.loop, .branch] ∧ m.Governed .unruly := by
  have hkinds : ((Method.draw ⟨.unruly, .core, 0⟩ 3
      (.stepper 7919023757 15739147485665885829)).toOption.map fun r =>
        r.1.sections.map Section.kind) = some [.loop, .branch] := by decide +kernel
  cases hrun : Method.draw ⟨.unruly, .core, 0⟩ 3 (.stepper 7919023757 15739147485665885829) with
  | error halt =>
    rw [hrun] at hkinds
    cases hkinds
  | ok r =>
    rw [hrun] at hkinds
    exact ⟨by decide +kernel, r.1, r.2, rfl, Option.some.inj hkinds, Method.draw_governed hrun⟩

end ClassMill
