import ClassMill.Proofs.Generation.Shape

/-!
# Draws without faults

Accepted policies rule out every fault but three: the width of the range of reals may overflow,
and names and conditions may be longer than storage. If these three fit, all draws of trees are
without faults, as long as a class is asked for no more members than storage holds.
-/

namespace ClassMill

open ClassMill.Random

/-- What drawing asks of a policy beyond the rules: the range of reals has a finite width, names
with the method ending fit into storage, and so do the joined clauses of the longest condition,
if there are conditions at all. -/
structure Policy.Drawable (p : Policy) : Prop where
  width : (p.realLiteral.2 - p.realLiteral.1).isFinite = true
  names : ∀ kind, (p.nameLength kind).toNat + Name.methodSuffix.length ≤ storageLimit
  clauses : 0 < p.levels →
    (p.clauseCount.high.toNat - 1) * Condition.joinedSize ≤ storageLimit

theorem Policy.drawable_default : Policy.default.Drawable where
  width := by decide +kernel
  names kind := by cases kind <;> decide
  clauses _ := by decide

variable {ctx : Context}

/-! ## Choices -/

theorem Policy.Accepted.truth_safe (h : ctx.policy.Accepted) : ctx.chooseTruth.Safe :=
  Draw.chance_safe h.chances.2.1.1 h.chances.2.1.2

theorem Policy.Accepted.negation_safe (h : ctx.policy.Accepted) : ctx.chooseNegation.Safe :=
  Draw.chance_safe h.chances.1.1 h.chances.1.2

theorem Policy.Accepted.readonly_safe (h : ctx.policy.Accepted) : ctx.chooseReadonly.Safe :=
  Draw.chance_safe h.chances.2.2.1 h.chances.2.2.2

theorem Policy.Accepted.integer_safe (h : ctx.policy.Accepted) : ctx.chooseInteger.Safe :=
  Distribution.sample_safe_of_within h.integerLiteral

theorem Policy.Accepted.loopSpan_safe (h : ctx.policy.Accepted) : ctx.chooseLoopSpan.Safe :=
  (Distribution.sample_safe_of_within h.loopSpan).andThen fun _ => Draw.safe_pure _

/-- A real literal is drawn without faults exactly if the range has a finite width. -/
theorem Policy.Accepted.real_safe_iff (h : ctx.policy.Accepted) :
    ctx.chooseReal.Safe ↔
      (ctx.policy.realLiteral.2 - ctx.policy.realLiteral.1).isFinite = true := by
  obtain ⟨hlow, hhigh, horder⟩ := h.realLiteral
  rw [Context.chooseReal, Draw.real_safe_iff]
  simp [hlow, hhigh, horder]

/-- A name is drawn without faults exactly if it fits into storage with the method ending. -/
theorem Context.name_safe_iff {kind : NameKind} :
    (ctx.chooseName kind).Safe ↔
      (ctx.policy.nameLength kind).toNat + Name.methodSuffix.length ≤ storageLimit :=
  Name.identifier_safe_iff

/-! ## Sections -/

theorem Atom.draw_safe (h : ctx.policy.Accepted) (kind : AtomKind) :
    (Atom.draw ctx kind).Safe := by
  cases kind with
  | literal => exact h.truth_safe.andThen fun _ => Draw.safe_pure _
  | booleans =>
    exact h.truth_safe.andThen fun _ => (Draw.pick_safe _ _).andThen fun _ =>
      h.truth_safe.andThen fun _ => Draw.safe_pure _
  | integers =>
    exact h.integer_safe.andThen fun _ => (Draw.pick_safe _ _).andThen fun _ =>
      h.integer_safe.andThen fun _ => Draw.safe_pure _

theorem Clause.draw_safe (h : ctx.policy.Accepted) : (Clause.draw ctx).Safe :=
  h.negation_safe.andThen fun _ => (Draw.pick_safe _ _).andThen fun kind =>
    (Atom.draw_safe h kind).andThen fun _ => Draw.safe_pure _

/-- A condition is drawn without faults if the longest one fits into storage. -/
theorem Condition.draw_safe (h : ctx.policy.Accepted)
    (hclauses : (ctx.policy.clauseCount.high.toNat - 1) * joinedSize ≤ storageLimit) :
    (Condition.draw ctx).Safe := by
  have horder := (Distribution.within_iff.mp h.clauseCount).1
  have hjoined : (drawJoined ctx).Safe := (Draw.pick_safe _ _).andThen fun _ =>
    (Clause.draw_safe h).andThen fun _ => Draw.safe_pure _
  refine (Distribution.sample_safe horder).bind (Distribution.sample_yields _)
    fun count hcount => (Clause.draw_safe h).andThen fun first => ?_
  have hle : count.toNat ≤ ctx.policy.clauseCount.high.toNat :=
    UInt64.le_iff_toNat_le.mp hcount.2
  have hfits : (count.toNat - 1) * joinedSize ≤ storageLimit :=
    Nat.le_trans (Nat.mul_le_mul_right joinedSize (Nat.sub_le_sub_right hle 1)) hclauses
  exact (hjoined.listOf hfits).andThen fun _ => Draw.safe_pure _

/-- A few small items fit into any storage. -/
theorem few_fit {count size : Nat} (hcount : count ≤ 4) (hsize : size ≤ 64) :
    count * size ≤ storageLimit := by
  have hlimit : 4 * 64 ≤ storageLimit := by decide
  exact Nat.le_trans (Nat.mul_le_mul hcount hsize) hlimit

theorem Chain.branches_fit {count : UInt64} (h : count ≤ 3) :
    conditionalBranches count.toNat * branchSize ≤ storageLimit := by
  have hcount : count.toNat ≤ 3 := UInt64.le_iff_toNat_le.mp h
  have hbranches : conditionalBranches count.toNat ≤ 4 := by
    unfold conditionalBranches
    omega
  exact few_fit hbranches (Nat.le_refl branchSize)

namespace Section

variable {body : Draw Section}

theorem drawBranchOf_safe (h : ctx.policy.Accepted)
    (hclauses :
      (ctx.policy.clauseCount.high.toNat - 1) * Condition.joinedSize ≤ storageLimit)
    (hbody : body.Safe) : (drawBranchOf ctx body).Safe := by
  have hbranch : (Chain.drawBranch ctx body).Safe :=
    (Condition.draw_safe h hclauses).andThen fun _ => hbody.andThen fun _ => Draw.safe_pure _
  have hlast : ∀ count, (Chain.drawLast body count).Safe := by
    intro count
    unfold Chain.drawLast
    split
    · exact hbody.map
    · exact Draw.safe_pure none
  have hchain : (Chain.draw ctx body).Safe :=
    (Distribution.sample_safe_of_within h.branchCount).bind
      (Distribution.sample_yields_of_within h.branchCount) fun count hcount =>
      (hbranch.listOf (Chain.branches_fit hcount.2)).andThen fun _ =>
      (hlast count.toNat).andThen fun _ => Draw.safe_pure _
  exact hchain.andThen fun _ => Draw.safe_pure _

/-- The last value of a loop fits into a word, since its first value and its span are small. -/
theorem drawLoopOf_safe (h : ctx.policy.Accepted)
    (hname : (ctx.chooseName .loopVariable).Safe) (hbody : body.Safe) :
    (drawLoopOf ctx body).Safe := by
  have hspan : ctx.chooseLoopSpan.Yields (· ≤ Policy.maxLiteral) := by
    refine (Distribution.sample_yields_of_within h.loopSpan).bind fun span hs =>
      Draw.yields_pure ?_
    rw [UInt64.max_def]
    split
    · decide
    · exact hs.2
  refine hname.andThen fun counter => (Distribution.sample_safe_of_within h.loopStart).bind
    (Distribution.sample_yields_of_within h.loopStart) fun start hstart =>
    h.loopSpan_safe.bind hspan fun span hle => ?_
  have hsum : checkedAdd start span = .ok (start + span) := by
    have hfirst : start.toNat ≤ 1000000 := UInt64.le_iff_toNat_le.mp hstart.2
    have hsecond : span.toNat ≤ 1000000 := UInt64.le_iff_toNat_le.mp hle
    have hsize : UInt64.size = 2 ^ 64 := rfl
    rw [checkedAdd, if_pos (by omega)]
  exact (Draw.safe_ofExcept hsum).andThen fun _ => hbody.andThen fun _ => Draw.safe_pure _

theorem draw_safe (h : ctx.policy.Accepted) (hname : (ctx.chooseName .loopVariable).Safe)
    {levels : Nat}
    (hclauses : 0 < levels →
      (ctx.policy.clauseCount.high.toNat - 1) * Condition.joinedSize ≤ storageLimit) :
    (draw ctx levels).Safe := by
  induction levels with
  | zero => exact (Draw.pick_safe _ _).andThen fun _ => Draw.safe_pure _
  | succ levels ih =>
    have hfits := hclauses (Nat.succ_pos levels)
    have hbody := ih fun _ => hfits
    refine (Draw.pick_safe _ _).andThen fun kind => ?_
    cases kind with
    | branch => exact drawBranchOf_safe h hfits hbody
    | loop => exact drawLoopOf_safe h hname hbody

end Section

/-! ## Members -/

theorem Policy.Drawable.local_safe (hd : ctx.policy.Drawable) (h : ctx.policy.Accepted) :
    (Local.draw ctx).Safe := by
  have hname := Context.name_safe_iff.mpr (hd.names .localVariable)
  have hinitial : ∀ kind, (Initializer.draw ctx kind).Safe := by
    intro kind
    cases kind with
    | quotedBoolean => exact h.truth_safe.andThen fun _ => Draw.safe_pure _
    | integer => exact h.integer_safe.andThen fun _ => Draw.safe_pure _
    | real => exact (h.real_safe_iff.mpr hd.width).andThen fun _ => Draw.safe_pure _
    | quotedName => exact hname.andThen fun _ => Draw.safe_pure _
  exact hname.andThen fun _ => (Draw.pick_safe _ _).andThen fun kind =>
    (hinitial kind).andThen fun _ => Draw.safe_pure _

theorem Policy.Drawable.section_safe (hd : ctx.policy.Drawable) (h : ctx.policy.Accepted) :
    (Section.drawAt ctx ctx.policy.maxDepth).Safe :=
  Section.draw_safe h (Context.name_safe_iff.mpr (hd.names .loopVariable)) hd.clauses

theorem Policy.Drawable.method_safe (hd : ctx.policy.Drawable) (h : ctx.policy.Accepted) :
    (Method.draw ctx).Safe := by
  have hname := Context.name_safe_iff.mpr (hd.names .method)
  refine hname.andThen fun _ =>
    (Distribution.sample_safe_of_within h.localCount).bind
      (Distribution.sample_yields_of_within h.localCount) fun localCount hl =>
    (Distribution.sample_safe_of_within h.sectionCount).bind
      (Distribution.sample_yields_of_within h.sectionCount) fun sectionCount hs => ?_
  have hlocalsFit : localCount.toNat * Method.localSize ≤ storageLimit :=
    few_fit (UInt64.le_iff_toNat_le.mp hl.2) (by decide)
  have hsectionsFit : sectionCount.toNat * Method.sectionSize ≤ storageLimit :=
    few_fit (UInt64.le_iff_toNat_le.mp hs.2) (by decide)
  have hlocals := (hd.local_safe h).listOf hlocalsFit
  have hsections := (hd.section_safe h).listOf hsectionsFit
  exact hlocals.andThen fun _ => hsections.andThen fun _ => h.integer_safe.andThen fun _ =>
    Draw.safe_pure _

theorem Policy.Accepted.property_safe (h : ctx.policy.Accepted) (ordinal : UInt64) :
    (Property.draw ctx ordinal).Safe := by
  have hdefault : ∀ type, (DefaultValue.draw ctx ordinal type).Safe := by
    intro type
    cases type with
    | boolean => exact h.truth_safe.andThen fun _ => Draw.safe_pure _
    | string => exact Draw.safe_pure _
    | int => exact Draw.safe_pure _
    | double => exact Draw.safe_pure _
    | float => exact Draw.safe_pure _
    | long => exact Draw.safe_pure _
    | short => exact Draw.safe_pure _
  exact ((Draw.choose_safe _).andThen fun _ => Draw.safe_pure _).andThen fun type =>
    h.readonly_safe.andThen fun _ => (hdefault type).andThen fun _ => Draw.safe_pure _

/-- A class is drawn without faults if its members fit into storage. -/
theorem Policy.Drawable.class_safe (hd : ctx.policy.Drawable) (h : ctx.policy.Accepted)
    (package : String) {properties methods : Nat}
    (hproperties : properties * Property.size ≤ storageLimit)
    (hmethods : methods * Method.size ≤ storageLimit) :
    (ClassDecl.draw ctx package properties methods).Safe := by
  have hreserve : reserve properties Property.size = .ok () := by
    rw [reserve, if_pos hproperties]
  have hlist : (Property.drawList ctx properties).Safe :=
    (Draw.safe_ofExcept hreserve).andThen fun _ =>
      Draw.safe_forEach fun ordinal _ => h.property_safe ordinal
  exact (Context.name_safe_iff.mpr (hd.names .type)).andThen fun _ => hlist.andThen fun _ =>
    ((hd.method_safe h).listOf hmethods).andThen fun _ => Draw.safe_pure _

end ClassMill
