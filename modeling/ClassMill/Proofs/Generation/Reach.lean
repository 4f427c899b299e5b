import ClassMill.Proofs.Generation.Faults
import ClassMill.Proofs.Random.Reach
import ClassMill.Proofs.Random.Variance

/-!
# What generation can reach

Under a policy that meets all rules and whose names and conditions fit into storage, every draw
of a tree reaches a value: names are runs of one letter, and blocks are if chains. A condition
that does not fit, and a class with more members than fit, are reached as faults.
-/

namespace ClassMill

open ClassMill.Random

variable {ctx : Context}

/-! ## Names and counts -/

/-- No reserved word is a run of one letter `a`, in any case. -/
theorem Name.isReserved_replicate {first : Char} (h : first.toLower = 'a') (n : Nat) :
    isReserved (String.ofList (first :: List.replicate n 'a')) = false := by
  have hwords : ∀ word ∈ reservedWords, word.toList.all (· == 'a') = false := by decide
  have hlowered : (lowered (String.ofList (first :: List.replicate n 'a'))).toList =
      List.replicate (n + 1) 'a' := by
    have ha : 'a'.toLower = 'a' := by decide
    rw [lowered, String.toList_map, String.toList_ofList, List.map_cons, h, List.map_replicate,
      ha, List.replicate_succ]
  rw [isReserved, ← Bool.not_eq_true, List.contains_iff_mem]
  intro hmem
  have hword := hwords _ hmem
  rw [hlowered] at hword
  simp at hword

theorem Name.reachable_identifier {kind : NameKind} {length : UInt64}
    (h : length.toNat + methodSuffix.length ≤ storageLimit) :
    (identifier kind length).Reachable := by
  obtain ⟨first, hlower, hfirst⟩ : ∃ first : Char, first.toLower = 'a' ∧
      (letter (leadingLetters kind)).Reaches first := by
    refine ⟨if kind.capitalised then 'A' else 'a', ?_, ?_⟩
    · cases kind <;> decide
    · cases kind <;> exact (Draw.reaches_choose _ _).bind (Draw.reaches_pure _)
  have hletter : (letter (smallLetters ++ capitalLetters)).Reaches 'a' :=
    (Draw.reaches_choose _ _).bind (Draw.reaches_pure _)
  have hstem : (stem kind ((max length 1).toNat - 1)).Reaches
      (String.ofList (first :: List.replicate ((max length 1).toNat - 1) 'a')) :=
    hfirst.bind ((hletter.times _).bind (Draw.reaches_pure _))
  have hkept := isReserved_replicate hlower ((max length 1).toNat - 1)
  exact (Draw.reaches_ofExcept (reserveStem_max_eq_ok_iff.mpr h)).andThen
    ((hstem.redraw (by rw [hkept]; rfl)).andThen (Draw.reachable_pure _))

/-- Variances can leave a count as it is, up to the greatest signed number. -/
theorem Variance.reaches_count (base : UInt64) (percent : Float) :
    (count base percent).Reaches (min base.toNat countLimit) := by
  have hsample : ∀ signed : Int64, (sample signed percent).Reaches signed := by
    intro signed
    have hmoved : moved signed 0 0 = signed.toInt := by simp [moved]
    have hlow := signed.minValue_le_toInt
    have hhigh := signed.toInt_le
    refine (Draw.reaches_upTo _).bind ((Draw.reaches_upTo 2).bind ?_)
    simp only [hmoved]
    rw [if_pos ⟨hlow, hhigh⟩, Int64.ofInt_toInt]
    exact Draw.reaches_pure signed
  refine (hsample (capped base)).bind ?_
  rw [toInt_capped, Int.toNat_natCast]
  exact Draw.reaches_pure _

/-! ## Sections -/

theorem Policy.Accepted.reachable_truth (h : ctx.policy.Accepted) : ctx.chooseTruth.Reachable :=
  Draw.reachable_chance h.truth_safe

theorem Clause.reachable_draw (h : ctx.policy.Accepted) : (Clause.draw ctx).Reachable := by
  have hnegation : ctx.chooseNegation.Reachable := Draw.reachable_chance h.negation_safe
  have hliteral : (Atom.draw ctx .literal).Reachable :=
    h.reachable_truth.andThen fun _ => Draw.reachable_pure _
  exact hnegation.andThen fun _ => (Draw.reaches_pick _ _).andThen
    (hliteral.andThen fun _ => Draw.reachable_pure _)

theorem Condition.reachable_draw (h : ctx.policy.Accepted)
    (hclauses : (ctx.policy.clauseCount.high.toNat - 1) * joinedSize ≤ storageLimit) :
    (Condition.draw ctx).Reachable := by
  have horder := (Distribution.within_iff.mp h.clauseCount).1
  have hclause := Clause.reachable_draw h
  have hjoined : (drawJoined ctx).Reachable := (Draw.reaches_pick _ _).andThen
    (hclause.andThen fun _ => Draw.reachable_pure _)
  obtain ⟨joined, hjoined⟩ := hjoined
  exact (Distribution.reaches_sample_high horder).andThen (hclause.andThen fun _ =>
    (hjoined.listOf hclauses).andThen (Draw.reachable_pure _))

/-- A condition that does not fit into storage faults if it is asked for. -/
theorem Condition.faults_draw (h : ctx.policy.Accepted)
    (hclauses : storageLimit < (ctx.policy.clauseCount.high.toNat - 1) * joinedSize) :
    (Condition.draw ctx).Faults .capacityOverflow := by
  have horder := (Distribution.within_iff.mp h.clauseCount).1
  obtain ⟨first, hfirst⟩ := Clause.reachable_draw h
  exact (Distribution.reaches_sample_high horder).bind_faults
    (hfirst.bind_faults (Draw.faults_listOf hclauses).bind)

/-- Some number of branches is reached, and branches are few enough for any storage. -/
theorem Policy.Accepted.reaches_branchCount (h : ctx.policy.Accepted) :
    ∃ count, ctx.chooseBranchCount.Reaches count ∧
      Chain.conditionalBranches count.toNat * Chain.branchSize ≤ storageLimit := by
  obtain ⟨horder, -, hhigh⟩ := Distribution.within_iff.mp h.branchCount
  exact ⟨_, Distribution.reaches_sample_high horder, Chain.branches_fit hhigh⟩

namespace Section

variable {body : Draw Section}

theorem reachable_drawBranchOf (h : ctx.policy.Accepted)
    (hclauses :
      (ctx.policy.clauseCount.high.toNat - 1) * Condition.joinedSize ≤ storageLimit)
    (hbody : body.Reachable) : (drawBranchOf ctx body).Reachable := by
  obtain ⟨count, hcount, hfits⟩ := h.reaches_branchCount
  have hbranch : (Chain.drawBranch ctx body).Reachable :=
    (Condition.reachable_draw h hclauses).andThen fun _ => hbody.andThen fun _ =>
      Draw.reachable_pure _
  obtain ⟨branch, hbranch⟩ := hbranch
  have hlast : (Chain.drawLast body count.toNat).Reachable := by
    unfold Chain.drawLast
    split
    · exact hbody.map
    · exact Draw.reachable_pure none
  have hchain : (Chain.draw ctx body).Reachable := hcount.andThen
    ((hbranch.listOf hfits).andThen (hlast.andThen fun _ => Draw.reachable_pure _))
  exact hchain.andThen fun _ => Draw.reachable_pure _

theorem reachable_draw (h : ctx.policy.Accepted) {levels : Nat}
    (hclauses : 0 < levels →
      (ctx.policy.clauseCount.high.toNat - 1) * Condition.joinedSize ≤ storageLimit) :
    (draw ctx levels).Reachable := by
  induction levels with
  | zero => exact (Draw.reaches_pick _ _).andThen (Draw.reachable_pure _)
  | succ levels ih =>
    have hfits := hclauses (Nat.succ_pos levels)
    have hbranch := reachable_drawBranchOf h hfits (ih fun _ => hfits)
    exact (Draw.reaches_pick _ _).andThen hbranch

/-- The first condition of a block faults if conditions do not fit into storage. -/
theorem faults_draw (h : ctx.policy.Accepted) {levels : Nat} (hlevels : 0 < levels)
    (hclauses :
      storageLimit < (ctx.policy.clauseCount.high.toNat - 1) * Condition.joinedSize) :
    (draw ctx levels).Faults .capacityOverflow := by
  obtain ⟨depth, rfl⟩ := Nat.exists_eq_add_one_of_ne_zero (Nat.ne_of_gt hlevels)
  obtain ⟨count, hcount, hfits⟩ := h.reaches_branchCount
  have hbranch : (Chain.drawBranch ctx (draw ctx depth)).Faults .capacityOverflow :=
    (Condition.faults_draw h hclauses).bind
  have hpos : 0 < Chain.conditionalBranches count.toNat := Nat.le_max_left 1 _
  have hchain : (Chain.draw ctx (draw ctx depth)).Faults .capacityOverflow :=
    hcount.bind_faults (hbranch.listOf hpos hfits).bind
  have hblock : (drawBranchOf ctx (draw ctx depth)).Faults .capacityOverflow := hchain.bind
  exact (Draw.reaches_pick _ _).bind_faults hblock

end Section

/-! ## Members -/

namespace Policy.Drawable

theorem reachable_name (hd : ctx.policy.Drawable) (kind : NameKind) :
    (ctx.chooseName kind).Reachable := Name.reachable_identifier (hd.names kind)

theorem reachable_local (hd : ctx.policy.Drawable) (h : ctx.policy.Accepted) :
    (Local.draw ctx).Reachable := by
  have hinitial : (Initializer.draw ctx .quotedBoolean).Reachable :=
    h.reachable_truth.andThen fun _ => Draw.reachable_pure _
  exact (hd.reachable_name .localVariable).andThen fun _ => (Draw.reaches_pick _ _).andThen
    (hinitial.andThen fun _ => Draw.reachable_pure _)

theorem reachable_method (hd : ctx.policy.Drawable) (h : ctx.policy.Accepted) :
    (Method.draw ctx).Reachable := by
  have hcounts : ∀ {d : Distribution}, d.within 1 4 = true →
      ∃ count, d.sample.Reaches count ∧ count.toNat ≤ 4 := by
    intro d hwithin
    obtain ⟨horder, -, hhigh⟩ := Distribution.within_iff.mp hwithin
    exact ⟨_, Distribution.reaches_sample_high horder, UInt64.le_iff_toNat_le.mp hhigh⟩
  obtain ⟨localCount, hlocalCount, hfewLocals⟩ := hcounts h.localCount
  obtain ⟨sectionCount, hsectionCount, hfewSections⟩ := hcounts h.sectionCount
  obtain ⟨item, hitem⟩ := hd.reachable_local h
  obtain ⟨top, htop⟩ : (Section.drawAt ctx ctx.policy.maxDepth).Reachable :=
    Section.reachable_draw h hd.clauses
  have hresult := Distribution.reaches_sample_low (Distribution.within_iff.mp h.integerLiteral).1
  exact (hd.reachable_name .method).andThen fun _ => hlocalCount.andThen
    (hsectionCount.andThen ((hitem.listOf (few_fit hfewLocals (by decide))).andThen
      ((htop.listOf (few_fit hfewSections (by decide))).andThen
        (hresult.andThen (Draw.reachable_pure _)))))

end Policy.Drawable

theorem Property.reachable_draw (h : ctx.policy.Accepted) (ordinal : UInt64) :
    (Property.draw ctx ordinal).Reachable := by
  obtain ⟨others, htypes⟩ : ∃ others, ctx.dialect.propertyTypes = .int :: others := by
    cases ctx.dialect <;> exact ⟨_, rfl⟩
  have htype : ctx.choosePropertyType.Reaches .int := by
    rw [Context.choosePropertyType, htypes]
    exact (Draw.reaches_choose _ _).bind (Draw.reaches_pure _)
  have hreadonly : ctx.chooseReadonly.Reachable := Draw.reachable_chance h.readonly_safe
  have hdefault : (DefaultValue.draw ctx ordinal .int).Reachable := Draw.reachable_pure _
  exact htype.andThen (hreadonly.andThen fun _ => hdefault.andThen fun _ =>
    Draw.reachable_pure _)

theorem Property.reaches_drawList (h : ctx.policy.Accepted) {count : Nat}
    (hfits : count * size ≤ storageLimit) :
    ∃ ps, ps.length = count ∧ (drawList ctx count).Reaches ps := by
  obtain ⟨ps, hlength, hps⟩ :=
    Draw.reaches_forEach (ordinals count) fun ordinal => reachable_draw h ordinal
  have hreserve : reserve count size = .ok () := by rw [reserve, if_pos hfits]
  exact ⟨ps, hlength.trans (length_ordinals count), (Draw.reaches_ofExcept hreserve).bind hps⟩

namespace ClassDecl

/-- A class whose members fit into storage is reached with as many members as it is asked for. -/
theorem reaches_draw (hd : ctx.policy.Drawable) (h : ctx.policy.Accepted) (package : String)
    {properties methods : Nat} (hproperties : properties * Property.size ≤ storageLimit)
    (hmethods : methods * Method.size ≤ storageLimit) :
    ∃ c, c.properties.length = properties ∧ c.methods.length = methods ∧
      (draw ctx package properties methods).Reaches c := by
  obtain ⟨name, hname⟩ := hd.reachable_name .type
  obtain ⟨ps, hlength, hps⟩ := Property.reaches_drawList h hproperties
  obtain ⟨m, hm⟩ := hd.reachable_method h
  exact ⟨⟨package, name, ps, List.replicate methods m⟩, hlength, List.length_replicate,
    hname.bind (hps.bind ((hm.listOf hmethods).bind (Draw.reaches_pure _)))⟩

/-- A class with more members than fit into storage is reached as a fault. -/
theorem faults_draw (hd : ctx.policy.Drawable) (h : ctx.policy.Accepted) (package : String)
    {properties methods : Nat}
    (hmembers : storageLimit < properties * Property.size ∨
      storageLimit < methods * Method.size) :
    (draw ctx package properties methods).Faults .capacityOverflow := by
  obtain ⟨name, hname⟩ := hd.reachable_name .type
  by_cases hproperties : properties * Property.size ≤ storageLimit
  · obtain ⟨ps, -, hps⟩ := Property.reaches_drawList h hproperties
    have hmethods := hmembers.resolve_left (Nat.not_lt.mpr hproperties)
    have hlist : (Method.drawList ctx methods).Faults .capacityOverflow :=
      Draw.faults_listOf hmethods
    exact hname.bind_faults (hps.bind_faults hlist.bind)
  · have hreserve : reserve properties Property.size = .error .capacityOverflow := by
      rw [reserve, if_neg hproperties]
    have hlist : (Property.drawList ctx properties).Faults .capacityOverflow :=
      (Draw.faults_ofExcept hreserve).bind
    exact hname.bind_faults hlist.bind

end ClassDecl

/-- A generator whose base counts fit into storage reaches a class with that many members. -/
theorem ClassGenerator.reaches_drawClass (hd : ctx.policy.Drawable) (h : ctx.policy.Accepted)
    (g : ClassGenerator)
    (hproperties : min g.properties.toNat Variance.countLimit * Property.size ≤ storageLimit)
    (hmethods : min g.methods.toNat Variance.countLimit * Method.size ≤ storageLimit) :
    ∃ c : ClassDecl, c.properties.length = min g.properties.toNat Variance.countLimit ∧
      c.methods.length = min g.methods.toNat Variance.countLimit ∧
      (g.drawClass ctx).Reaches c := by
  obtain ⟨c, hpropertyCount, hmethodCount, hc⟩ :=
    ClassDecl.reaches_draw hd h g.package hproperties hmethods
  have hclass : (g.drawClass ctx).Reaches c := (Variance.reaches_count _ _).bind
    ((Variance.reaches_count _ _).bind hc)
  exact ⟨c, hpropertyCount, hmethodCount, hclass⟩

/-- The class that is reached is written in the dialect of the context. -/
theorem ClassGenerator.reaches_generate (hd : ctx.policy.Drawable) (h : ctx.policy.Accepted)
    (g : ClassGenerator)
    (hproperties : min g.properties.toNat Variance.countLimit * Property.size ≤ storageLimit)
    (hmethods : min g.methods.toNat Variance.countLimit * Method.size ≤ storageLimit) :
    ∃ c : ClassDecl, c.properties.length = min g.properties.toNat Variance.countLimit ∧
      c.methods.length = min g.methods.toNat Variance.countLimit ∧
      (g.generate ctx).Reaches (c.written ctx.dialect) := by
  obtain ⟨c, hpropertyCount, hmethodCount, hclass⟩ :=
    g.reaches_drawClass hd h hproperties hmethods
  exact ⟨c, hpropertyCount, hmethodCount, hclass.bind (Draw.reaches_pure _)⟩

end ClassMill
