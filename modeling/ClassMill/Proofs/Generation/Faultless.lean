import ClassMill.Proofs.Generation.Reach

/-!
# Policies under which nothing faults

The rules for policies do not rule out all faults: an accepted policy may ask for reals from a
range of infinite width, or for names and conditions longer than storage. These three are all
that is missing. Without them nothing faults, whatever the dialect and the random words.
-/

namespace ClassMill

open ClassMill.Random

/-- No choice and no tree is drawn with a fault under the context. Classes are drawn without
faults exactly if their members fit into storage. -/
structure Context.Faultless (ctx : Context) : Prop where
  leaf : ctx.chooseLeaf.Safe
  blockKind : ctx.chooseBlockKind.Safe
  atomKind : ctx.chooseAtomKind.Safe
  combiner : ctx.chooseCombiner.Safe
  equality : ctx.chooseEquality.Safe
  relation : ctx.chooseRelation.Safe
  initializerKind : ctx.chooseInitializerKind.Safe
  propertyType : ctx.choosePropertyType.Safe
  branchCount : ctx.chooseBranchCount.Safe
  clauseCount : ctx.chooseClauseCount.Safe
  localCount : ctx.chooseLocalCount.Safe
  sectionCount : ctx.chooseSectionCount.Safe
  loopStart : ctx.chooseLoopStart.Safe
  loopSpan : ctx.chooseLoopSpan.Safe
  integer : ctx.chooseInteger.Safe
  real : ctx.chooseReal.Safe
  truth : ctx.chooseTruth.Safe
  negation : ctx.chooseNegation.Safe
  readonly : ctx.chooseReadonly.Safe
  names : ∀ kind, (ctx.chooseName kind).Safe
  locals : (Local.draw ctx).Safe
  sections : (Section.drawAt ctx ctx.policy.maxDepth).Safe
  properties : ∀ ordinal, (Property.draw ctx ordinal).Safe
  methods : (Method.draw ctx).Safe
  classes : ∀ package properties methods,
    (ClassDecl.draw ctx package properties methods).Safe ↔
      properties * Property.size ≤ storageLimit ∧ methods * Method.size ≤ storageLimit

namespace Policy

variable {ctx : Context}

theorem Drawable.class_safe_iff (hd : ctx.policy.Drawable) (h : ctx.policy.Accepted)
    (package : String) (properties methods : Nat) :
    (ClassDecl.draw ctx package properties methods).Safe ↔
      properties * Property.size ≤ storageLimit ∧ methods * Method.size ≤ storageLimit := by
  constructor
  · intro hsafe
    by_contra hmembers
    have hlarge : storageLimit < properties * Property.size ∨
        storageLimit < methods * Method.size := by omega
    exact (ClassDecl.faults_draw hd h package hlarge).not_safe hsafe
  · rintro ⟨hproperties, hmethods⟩
    exact hd.class_safe h package hproperties hmethods

theorem Drawable.faultless (hd : ctx.policy.Drawable) (h : ctx.policy.Accepted) :
    ctx.Faultless where
  leaf := Draw.pick_safe _ _
  blockKind := Draw.pick_safe _ _
  atomKind := Draw.pick_safe _ _
  combiner := Draw.pick_safe _ _
  equality := Draw.pick_safe _ _
  relation := Draw.pick_safe _ _
  initializerKind := Draw.pick_safe _ _
  propertyType := (Draw.choose_safe _).andThen fun _ => Draw.safe_pure _
  branchCount := Distribution.sample_safe_of_within h.branchCount
  clauseCount := Distribution.sample_safe_of_within h.clauseCount
  localCount := Distribution.sample_safe_of_within h.localCount
  sectionCount := Distribution.sample_safe_of_within h.sectionCount
  loopStart := Distribution.sample_safe_of_within h.loopStart
  loopSpan := h.loopSpan_safe
  integer := h.integer_safe
  real := h.real_safe_iff.mpr hd.width
  truth := h.truth_safe
  negation := h.negation_safe
  readonly := h.readonly_safe
  names kind := Context.name_safe_iff.mpr (hd.names kind)
  locals := hd.local_safe h
  sections := hd.section_safe h
  properties := h.property_safe
  methods := hd.method_safe h
  classes := hd.class_safe_iff h

/-- Faults of reals and names do not depend on the random words, and those of conditions are
reached by some of them. -/
theorem Accepted.drawable_of_faultless (h : ctx.policy.Accepted) (hsafe : ctx.Faultless) :
    ctx.policy.Drawable where
  width := h.real_safe_iff.mp hsafe.real
  names kind := Context.name_safe_iff.mp (hsafe.names kind)
  clauses := by
    intro hlevels
    by_contra hclauses
    exact (Section.faults_draw h hlevels (Nat.not_le.mp hclauses)).not_safe hsafe.sections

/-- Under a policy that a draft builds or a text spells nothing faults exactly if the range of
reals has a finite width and names and conditions fit into storage. -/
theorem faultless_iff_drawable {p : Policy}
    (h : (∃ d : Draft, d.build = .ok p) ∨ ∃ text, ofText text = .ok p) :
    (∀ dialect seed, (⟨p, dialect, seed⟩ : Context).Faultless) ↔ p.Drawable := by
  have haccepted : p.Accepted := by
    rcases h with hbuilt | ⟨text, htext⟩
    · exact accepted_iff_exists_build.mpr hbuilt
    · exact accepted_of_ofText htext
  constructor
  · intro hsafe
    have hrules : (⟨p, .core, 0⟩ : Context).policy.Accepted := haccepted
    exact hrules.drawable_of_faultless (hsafe .core 0)
  · intro hd dialect seed
    have hdrawable : (⟨p, dialect, seed⟩ : Context).policy.Drawable := hd
    exact hdrawable.faultless haccepted

/-- A policy at the edge of what is drawn without faults: another letter in the names of types
or another clause in conditions does not fit into storage. -/
def brimful : Policy :=
  { default with
    name := "brimful"
    clauseCount := .uniform 1 230584300921369396
    realLiteral := (-8.9e307, 8.9e307)
    typeLength := 9223372036854775800 }

theorem faultless_brimful :
    ((∃ d : Draft, d.build = .ok brimful) ∨ ∃ text, ofText text = .ok brimful) ∧
      ∀ dialect seed, (⟨brimful, dialect, seed⟩ : Context).Faultless := by
  have haccepted : brimful.Accepted := brokenRule?_eq_none_iff.mp (by decide +kernel)
  have hdrawable : brimful.Drawable :=
    { width := by decide +kernel
      names := fun kind => by cases kind <;> decide
      clauses := fun _ => by decide }
  have hbuilt : (∃ d : Draft, d.build = .ok brimful) ∨ ∃ text, ofText text = .ok brimful :=
    Or.inl ⟨_, haccepted.build_ofPolicy⟩
  exact ⟨hbuilt, (faultless_iff_drawable hbuilt).mpr hdrawable⟩

/-- A policy that meets all rules although the width of its range of reals overflows. -/
def wide : Policy := { default with name := "wide", realLiteral := (-1.7e308, 1.7e308) }

/-- Every real literal under an accepted policy faults, from whatever words it is drawn. -/
theorem chooseReal_wide :
    (Draft.ofPolicy wide).build = .ok wide ∧
      ∀ dialect seed attempts source,
        (⟨wide, dialect, seed⟩ : Context).chooseReal attempts source =
          .error (.fault .spanNotFinite) := by
  have haccepted : wide.Accepted := brokenRule?_eq_none_iff.mp (by decide +kernel)
  obtain ⟨hlow, hhigh, horder⟩ := haccepted.realLiteral
  have hwidth : ¬ (wide.realLiteral.2 - wide.realLiteral.1).isFinite = true := by
    decide +kernel
  refine ⟨haccepted.build_ofPolicy, fun dialect seed attempts source => ?_⟩
  rw [Context.chooseReal, Draw.real, if_neg (not_not.mpr horder), if_neg (not_not.mpr hlow),
    if_neg (not_not.mpr hhigh), if_pos hwidth]
  rfl

end Policy

end ClassMill
