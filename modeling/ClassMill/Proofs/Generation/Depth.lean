import ClassMill.Proofs.Generation.Shape

/-!
# The depth of drawn sections

A way leads from a section through blocks down to a leaf. All ways from a drawn section pass as
many blocks as the budget of levels allows, whatever the policy and the number of branches, and
a budget that allows none draws like the budget zero.
-/

namespace ClassMill

open ClassMill.Random

/-- A way through a number of blocks, from a section down to a leaf. -/
inductive Section.Way : Section → Nat → Prop
  | leaf (statement : Leaf) : Way (.leaf statement) 0
  | branch {chain : Chain} {body : Section} {n : Nat} (hbody : body ∈ chain.bodies)
      (way : Way body n) : Way (.branch chain) (n + 1)
  | loop {counter : String} {start stop : UInt64} {body : Section} {n : Nat}
      (way : Way body n) : Way (.loop counter start stop body) (n + 1)

namespace Section

/-- There is a way from a section to a leaf, and all such ways pass `n` blocks. -/
def Level (n : Nat) (s : Section) : Prop := ∀ k, s.Way k ↔ k = n

theorem level_leaf (statement : Leaf) : (leaf statement).Level 0 := by
  intro k
  constructor
  · rintro ⟨⟩
    rfl
  · rintro rfl
    exact .leaf statement

/-- A chain with a body, all of whose bodies are of one level, is one level above them. -/
theorem Level.branch {n : Nat} {chain : Chain} (hne : chain.bodies ≠ [])
    (h : ∀ body ∈ chain.bodies, body.Level n) : (Section.branch chain).Level (n + 1) := by
  intro k
  constructor
  · intro way
    cases way with
    | branch hbody way => rw [(h _ hbody _).mp way]
  · rintro rfl
    obtain ⟨body, hbody⟩ := List.exists_mem_of_ne_nil _ hne
    exact .branch hbody ((h body hbody n).mpr rfl)

theorem Level.loop {n : Nat} {counter : String} {start stop : UInt64} {body : Section}
    (h : body.Level n) : (Section.loop counter start stop body).Level (n + 1) := by
  intro k
  constructor
  · intro way
    cases way with
    | loop way => rw [(h _).mp way]
  · rintro rfl
    exact .loop ((h n).mpr rfl)

/-- A section is a leaf exactly if its ways pass no block. -/
theorem Level.isLeaf_iff {n : Nat} {s : Section} (h : s.Level n) : s.isLeaf = true ↔ n = 0 := by
  have hway := (h n).mpr rfl
  cases hway with
  | leaf statement => simp [isLeaf]
  | branch hbody way => simp [isLeaf]
  | loop way => simp [isLeaf]

/-! ## Draws -/

variable {ctx : Context} {body : Draw Section} {n : Nat}

theorem drawBranchOf_yields_level (hbody : body.Yields (Level n)) :
    (drawBranchOf ctx body).Yields fun s => s.kind = .branch ∧ s.Level (n + 1) := by
  refine (Chain.draw_yields_fits (Draw.yields_true _) hbody).bind fun chain hchain =>
    Draw.yields_pure ?_
  obtain ⟨count, -, hfits⟩ := hchain
  exact ⟨rfl, .branch (Chain.bodies_ne_nil hfits.conditional_pos) hfits.bodies⟩

theorem drawLoopOf_yields_level (hbody : body.Yields (Level n)) :
    (drawLoopOf ctx body).Yields fun s => s.kind = .loop ∧ s.Level (n + 1) :=
  drawLoopOf_yields_of_body hbody fun _ _ _ _ hs => ⟨rfl, hs.loop⟩

/-- All ways from a section that is drawn with a number of levels pass that many blocks. -/
theorem draw_yields_level (ctx : Context) (levels : Nat) :
    (draw ctx levels).Yields (Level levels) :=
  draw_yields_of_bodies level_leaf
    (fun _ _ hbody => (drawBranchOf_yields_level hbody).mono fun _ hs => hs.2)
    (fun _ _ hbody => (drawLoopOf_yields_level hbody).mono fun _ hs => hs.2) levels

/-- The budget of a body is one less than the budget of its block, which is not the least. -/
theorem toInt_budget_sub_one {budget : Int32} (h : budget ≠ Int32.minValue) :
    (budget - 1).toInt = budget.toInt - 1 := by
  have hlow : -2 ^ 31 < budget.toInt := by
    have hle := budget.le_toInt
    have hne : budget.toInt ≠ -2 ^ 31 := fun heq =>
      h (Int32.toInt_inj.mp (by rw [heq]; rfl))
    omega
  have hhigh := budget.toInt_lt
  have hone : (1 : Int32).toInt = 1 := rfl
  rw [Int32.toInt_sub, hone, Int.bmod_eq_of_le] <;> omega

/-- A section with a budget is a leaf, or a block that takes one level off the budget of its
bodies. -/
theorem drawAt_eq (ctx : Context) (budget : Int32) :
    drawAt ctx budget =
      if budget ≤ 0 then drawLeaf ctx
      else ctx.chooseBlockKind >>= drawBlock ctx (drawBody ctx budget) := by
  have hzero : budget ≤ 0 ↔ budget.toInt ≤ 0 := Int32.le_iff_toInt_le
  split
  · rename_i hnone
    rw [drawAt, Int.toNat_eq_zero.mpr (hzero.mp hnone), draw]
  · rename_i hsome
    have hpos : 0 < budget.toInt := Int.not_le.mp fun hle => hsome (hzero.mpr hle)
    have hleast : budget ≠ Int32.minValue := by
      rintro rfl
      exact absurd hpos (by decide)
    have hlevels : budget.toInt.toNat = (budget - 1).toInt.toNat + 1 := by
      rw [toInt_budget_sub_one hleast]
      omega
    rw [drawAt, hlevels, draw, drawBody, if_neg hleast, drawAt]

/-- The bodies of a block with a budget are one level below the budget, or leaves. -/
theorem drawBody_yields_level (ctx : Context) (budget : Int32) :
    (drawBody ctx budget).Yields (Level (budget.toInt - 1).toNat) := by
  unfold drawBody
  split
  · intro attempts source s rest hrun
    cases hrun
  · rename_i hleast
    rw [← toInt_budget_sub_one hleast]
    exact draw_yields_level ctx (budget - 1).toInt.toNat

/-- All ways from a section that is drawn with a budget pass as many blocks as the budget says,
or none; so this is its depth, and budgets that allow no block draw the same leaves. A block
that is drawn with a budget itself counts as one level, and its bodies have one level less. -/
theorem drawAt_level (ctx : Context) (budget : Int32) :
    ((drawAt ctx budget).Yields fun s =>
      (∀ n : Nat, s.Way n ↔ (n : Int) = max budget.toInt 0) ∧
        (s.depth : Int) = max budget.toInt 0 ∧ (s.isLeaf = true ↔ budget ≤ 0)) ∧
    (budget ≤ 0 → drawAt ctx budget = drawAt ctx 0) ∧
    ((drawBranch ctx budget).Yields fun s => s.kind = .branch ∧
      ∀ n : Nat, s.Way n ↔ (n : Int) = 1 + max (budget.toInt - 1) 0) ∧
    ((drawLoop ctx budget).Yields fun s => s.kind = .loop ∧
      ∀ n : Nat, s.Way n ↔ (n : Int) = 1 + max (budget.toInt - 1) 0) := by
  have hzero : budget ≤ 0 ↔ budget.toInt ≤ 0 := Int32.le_iff_toInt_le
  have hbody := drawBody_yields_level ctx budget
  refine ⟨?_, ?_, ?_, ?_⟩
  · intro attempts source s rest hrun
    have hlevel : s.Level budget.toInt.toNat := draw_yields_level ctx _ _ _ _ _ hrun
    have hshaped : s.Shaped budget.toInt.toNat := draw_yields ctx _ _ _ _ _ hrun
    refine ⟨fun n => (hlevel n).trans (by omega), ?_, ?_⟩
    · rw [hshaped.depth_eq]
      omega
    · rw [hlevel.isLeaf_iff, hzero]
      omega
  · intro hle
    have hnone : budget.toInt.toNat = 0 := Int.toNat_eq_zero.mpr (hzero.mp hle)
    have hsame : (0 : Int32).toInt.toNat = 0 := rfl
    rw [drawAt, drawAt, hnone, hsame]
  · exact (drawBranchOf_yields_level hbody).mono fun s hs =>
      ⟨hs.1, fun n => (hs.2 n).trans (by omega)⟩
  · exact (drawLoopOf_yields_level hbody).mono fun s hs =>
      ⟨hs.1, fun n => (hs.2 n).trans (by omega)⟩

/-- A run that returns a section of two levels: an if chain within an if chain. -/
theorem drawAt_level_two :
    ∃ s, drawAt ⟨.default, .core, 0⟩ 2 1 (.stepper 0 0) = .ok (s, .stepper 0 0) ∧
      (∀ n : Nat, s.Way n ↔ (n : Int) = 2) ∧ (s.depth : Int) = 2 ∧ s.isLeaf = false := by
  let condition : Condition := ⟨⟨true, .literal true⟩, []⟩
  let inner : Section := .branch (.conditional condition (.leaf .print) .empty)
  have hrun : drawAt ⟨.default, .core, 0⟩ 2 1 (.stepper 0 0) =
      .ok (.branch (.conditional condition inner .empty), .stepper 0 0) := rfl
  obtain ⟨hways, hdepth, -⟩ := (drawAt_level ⟨.default, .core, 0⟩ 2).1 _ _ _ _ hrun
  exact ⟨_, hrun, hways, hdepth, rfl⟩

end Section

end ClassMill
