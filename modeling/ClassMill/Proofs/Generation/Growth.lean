import ClassMill.Proofs.Generation.Governed
import ClassMill.Proofs.Policy.Accepted
import Mathlib.Algebra.Order.BigOperators.Group.Finset
import Mathlib.Algebra.Order.BigOperators.Group.List
import Mathlib.Algebra.Ring.GeomSum

/-!
# The size of drawn sections

A drawn section has sections on all of its levels, and no more of them than a tree whose blocks
all have as many bodies as the policy can ask for. Accepted policies are neither deep nor wide,
so one number bounds all methods that are drawn under them.
-/

namespace ClassMill

open ClassMill.Random

namespace Section

/-- The number of leaf statements within a section. -/
def leafCount (s : Section) : Nat := s.nodes.countP isLeaf

/-- The size of a section with a number of levels lies between the size of a single way down and
the size of a tree all of whose blocks have `width` bodies. -/
structure Extent (width levels : Nat) (s : Section) : Prop where
  least : levels + 1 ≤ s.nodes.length
  most : s.nodes.length ≤ ∑ i ∈ Finset.range (levels + 1), width ^ i
  leaf : 1 ≤ s.leafCount
  leaves : s.leafCount ≤ width ^ levels

variable {width levels : Nat}

theorem extent_leaf (width : Nat) (statement : Leaf) : (leaf statement).Extent width 0 := by
  constructor <;> simp [nodes, leafCount, isLeaf]

theorem sum_map_le {items : List Section} {f : Section → Nat} {most : Nat}
    (h : ∀ s ∈ items, f s ≤ most) : (items.map f).sum ≤ items.length * most := by
  have hsum := List.sum_le_card_nsmul (items.map f) most (by simpa using h)
  rwa [List.length_map, smul_eq_mul] at hsum

/-- A block has one level more than its bodies, of which there are at least one and at most
`width`. -/
theorem extent_block {s : Section} {bodies : List Section}
    (hnodes : s.nodes = s :: bodies.flatMap nodes) (hblock : s.isLeaf = false)
    (hne : bodies ≠ []) (hwidth : bodies.length ≤ width)
    (h : ∀ body ∈ bodies, body.Extent width levels) : s.Extent width (levels + 1) := by
  have hsize : s.nodes.length = (bodies.map fun body => body.nodes.length).sum + 1 := by
    rw [hnodes, List.length_cons, List.length_flatMap]
  have hleaves : s.leafCount = (bodies.map leafCount).sum := by
    rw [leafCount, hnodes, List.countP_cons_of_neg (by simp [hblock]), List.countP_flatMap]
    rfl
  have hsum : ∀ (f : Section → Nat) (most : Nat), (∀ body ∈ bodies, f body ≤ most) →
      (bodies.map f).sum ≤ width * most := fun f most hmost =>
    (sum_map_le hmost).trans (Nat.mul_le_mul_right most hwidth)
  obtain ⟨first, hmem⟩ := List.exists_mem_of_ne_nil bodies hne
  have hfirst := h first hmem
  have hlow : ∀ f : Section → Nat, f first ≤ (bodies.map f).sum := fun f =>
    List.single_le_sum (fun _ _ => Nat.zero_le _) _ (List.mem_map_of_mem hmem)
  constructor
  · have hleast := hlow fun body => body.nodes.length
    have hlevels := hfirst.least
    omega
  · rw [hsize, geom_sum_succ]
    exact Nat.succ_le_succ (hsum _ _ fun body hbody => (h body hbody).most)
  · rw [hleaves]
    exact hfirst.leaf.trans (hlow leafCount)
  · rw [hleaves, pow_succ']
    exact hsum _ _ fun body hbody => (h body hbody).leaves

/-! ## Draws -/

variable {ctx : Context} {body : Draw Section}

theorem drawBranchOf_yields_extent
    (hbody : body.Yields (Extent (max 1 ctx.policy.branchCount.high.toNat) levels)) :
    (drawBranchOf ctx body).Yields
      (Extent (max 1 ctx.policy.branchCount.high.toNat) (levels + 1)) := by
  refine (Chain.draw_yields_fits (Draw.yields_true _) hbody).bind fun chain hchain =>
    Draw.yields_pure ?_
  obtain ⟨count, ⟨-, hhigh⟩, hfits⟩ := hchain
  have hnodes : (branch chain).nodes = branch chain :: chain.bodies.flatMap nodes := by
    rw [nodes, Chain.nodes_eq]
  have hwidth : chain.bodies.length ≤ max 1 ctx.policy.branchCount.high.toNat := by
    rw [Chain.length_bodies, hfits.branchCount_eq]
    exact max_le_max_left 1 (UInt64.le_iff_toNat_le.mp hhigh)
  exact extent_block hnodes rfl (Chain.bodies_ne_nil hfits.conditional_pos) hwidth hfits.bodies

theorem drawLoopOf_yields_extent (hwidth : 1 ≤ width) (hbody : body.Yields (Extent width levels)) :
    (drawLoopOf ctx body).Yields (Extent width (levels + 1)) := by
  refine drawLoopOf_yields_of_body hbody fun counter start stop s hs => ?_
  have hnodes : (loop counter start stop s).nodes =
      loop counter start stop s :: [s].flatMap nodes := by
    rw [nodes, List.flatMap_singleton]
  exact extent_block hnodes rfl (List.cons_ne_nil s []) hwidth (by simpa using hs)

theorem draw_yields_extent (ctx : Context) (levels : Nat) :
    (draw ctx levels).Yields (Extent (max 1 ctx.policy.branchCount.high.toNat) levels) :=
  draw_yields_of_bodies (extent_leaf _) (fun _ _ hbody => drawBranchOf_yields_extent hbody)
    (fun _ _ hbody => drawLoopOf_yields_extent (Nat.le_max_left 1 _) hbody) levels

end Section

/-- Accepted policies ask for at most eight levels and three bodies. -/
theorem Section.Extent.length_nodes_le {p : Policy} (h : p.Accepted) {s : Section}
    (hs : s.Extent (max 1 p.branchCount.high.toNat) p.maxDepth.toInt.toNat) :
    s.nodes.length ≤ 9841 := by
  have hwidth : max 1 p.branchCount.high.toNat ≤ 3 := by
    have hhigh := (Distribution.within_iff.mp h.branchCount).2.2
    exact Nat.max_le.mpr ⟨by decide, UInt64.le_iff_toNat_le.mp hhigh⟩
  have hlevels : p.maxDepth.toInt.toNat + 1 ≤ 9 := by
    have hdepth : p.maxDepth ≤ Policy.maxDepthCeiling := of_decide_eq_true (h .depth)
    have hceiling : Policy.maxDepthCeiling.toInt = 8 := rfl
    have hle := Int32.le_iff_toInt_le.mp hdepth
    omega
  calc s.nodes.length
      ≤ ∑ i ∈ Finset.range (p.maxDepth.toInt.toNat + 1), max 1 p.branchCount.high.toNat ^ i :=
        hs.most
    _ ≤ ∑ i ∈ Finset.range (p.maxDepth.toInt.toNat + 1), 3 ^ i :=
        Finset.sum_le_sum fun i _ => Nat.pow_le_pow_left hwidth i
    _ ≤ ∑ i ∈ Finset.range 9, 3 ^ i := Finset.sum_le_sum_of_subset (Finset.range_mono hlevels)
    _ = 9841 := by decide

/-- A method under an accepted policy has at most four top-level sections. -/
theorem Method.draw_yields_length_nodes {ctx : Context} (h : ctx.policy.Accepted) :
    (Method.draw ctx).Yields fun m => m.nodes.length ≤ 39364 := by
  have hsection : (Section.drawAt ctx ctx.policy.maxDepth).Yields
      fun s => s.nodes.length ≤ 9841 :=
    (Section.draw_yields_extent ctx _).mono fun _ hs => hs.length_nodes_le h
  refine (Draw.yields_true _).bind fun name _ => (Draw.yields_true _).bind fun localCount _ =>
    (Distribution.sample_yields_of_within h.sectionCount).bind fun count hcount =>
    (Draw.yields_true _).bind fun locals _ => (hsection.listOf _ _).bind fun sections hs =>
    (Draw.yields_true _).bind fun result _ => Draw.yields_pure ?_
  have hfew : sections.length ≤ 4 := by
    rw [hs.1]
    exact UInt64.le_iff_toNat_le.mp hcount.2
  calc (sections.flatMap Section.nodes).length
      = (sections.map fun s => s.nodes.length).sum := List.length_flatMap
    _ ≤ sections.length * 9841 := Section.sum_map_le hs.2
    _ ≤ 4 * 9841 := Nat.mul_le_mul_right 9841 hfew

/-- The number of sections within a section that is drawn with a budget is at least one for each
level, and at most that of a tree whose blocks have as many bodies as the policy can ask for, and
likewise for the leaves. So no method under an accepted policy has more than 39364 sections. -/
theorem Section.drawAt_extent (ctx : Context) :
    (∀ budget, (drawAt ctx budget).Yields
      (Extent (max 1 ctx.policy.branchCount.high.toNat) budget.toInt.toNat)) ∧
    ∀ d : Policy.Draft, d.build = .ok ctx.policy →
      (Method.draw ctx).Yields fun m => m.nodes.length ≤ 39364 :=
  ⟨fun _ => draw_yields_extent ctx _, fun _ hbuilt =>
    Method.draw_yields_length_nodes (Policy.Draft.accepted_of_build hbuilt)⟩

/-- An accepted policy under which every if chain has three branches. -/
def Policy.bushy : Policy := { default with name := "bushy", branchCount := .const 3 }

/-- A run that returns a full tree: chains of three branches within a chain of three branches. -/
theorem Section.drawAt_extent_bushy :
    (Policy.Draft.ofPolicy .bushy).build = .ok .bushy ∧
      (Method.draw ⟨.bushy, .core, 0⟩).Yields (fun m => m.nodes.length ≤ 39364) ∧
      ∃ s, drawAt ⟨.bushy, .core, 0⟩ 2 1 (.stepper 0 0) = .ok (s, .stepper 0 0) ∧
        s.nodes.length = 1 + 3 + 9 ∧ s.leafCount = 9 ∧ s.Extent 3 2 := by
  have haccepted : Policy.bushy.Accepted := Policy.brokenRule?_eq_none_iff.mp (by decide +kernel)
  obtain ⟨hextent, hmethods⟩ := drawAt_extent ⟨.bushy, .core, 0⟩
  let condition : Condition := ⟨⟨true, .literal true⟩, []⟩
  let fork (body : Section) : Section :=
    .branch (.conditional condition body (.conditional condition body (.otherwise body)))
  have hrun : drawAt ⟨.bushy, .core, 0⟩ 2 1 (.stepper 0 0) =
      .ok (fork (fork (.leaf .print)), .stepper 0 0) := rfl
  exact ⟨haccepted.build_ofPolicy, hmethods _ haccepted.build_ofPolicy, _, hrun, rfl, rfl,
    hextent 2 _ _ _ _ hrun⟩

end ClassMill
