import ClassMill.Statistics.Counter
import Mathlib.Algebra.BigOperators.Fin

/-!
# What a counter holds after counting

Counting the items of a list one by one gives each kind the number of its occurrences. A kind
stays absent if it does not occur, and all counts together give the length of the list.
-/

namespace ClassMill

variable {κ : Type} [Kind κ]

theorem Kind.index_injective {k l : κ} (h : Kind.index k = Kind.index l) : k = l := by
  rw [← Kind.ofIndex_index k, h, Kind.ofIndex_index]

namespace Counter

/-- A count as a counter holds it, absent if it is zero. -/
def presence (n : Nat) : Option Nat := if n = 0 then none else some n

@[simp]
theorem getD_presence (n : Nat) : (presence n).getD 0 = n := by
  unfold presence
  split
  · simp [*]
  · rfl

/-- Counts the items of a list one after another. -/
def bumpAll (c : Counter κ) (items : List κ) : Counter κ := items.foldl bump c

theorem bumpAll_append (c : Counter κ) (items more : List κ) :
    c.bumpAll (items ++ more) = (c.bumpAll items).bumpAll more := by
  rw [bumpAll, List.foldl_append]
  rfl

theorem getD_eq (c : Counter κ) (k : κ) : c.getD k = (c.get? k).getD 0 := rfl

/-- The sum of all counts, kind by kind. -/
theorem total_eq_sum (c : Counter κ) :
    c.total = ∑ i : Fin (Kind.size κ), c.getD (Kind.ofIndex i) := by
  have hlist : ∀ kinds : List κ,
      (kinds.filterMap fun k => (c.get? k).map (k, ·)).foldr (fun entry rest => entry.2 + rest) 0 =
        (kinds.map c.getD).sum := by
    intro kinds
    induction kinds with
    | nil => rfl
    | cons k kinds ih =>
      cases hk : c.get? k with
      | none => simpa [hk, getD_eq] using ih
      | some n => simpa [hk, getD_eq] using ih
  rw [total, toList, hlist, Kind.all, List.map_ofFn, List.sum_ofFn]
  rfl

theorem total_empty : (empty : Counter κ).total = 0 := by
  simp [total_eq_sum, getD_eq]

variable [DecidableEq κ]

/-- Counting a kind adds one to it and changes no other kind. -/
theorem get?_bump (c : Counter κ) (k l : κ) :
    (c.bump k).get? l = if k = l then some (c.getD l + 1) else c.get? l := by
  rw [bump, get?_set]
  by_cases h : k = l
  · simp [h]
  · have hindex : Kind.index k ≠ Kind.index l := fun e => h (Kind.index_injective e)
    simp [h, hindex]

theorem getD_bump (c : Counter κ) (k l : κ) :
    (c.bump k).getD l = c.getD l + if k = l then 1 else 0 := by
  rw [getD_eq, get?_bump]
  by_cases h : k = l
  · simp [h]
  · simp [h, getD_eq]

/-- If each kind is held by its presence in the items counted before, the same is true after
counting more items. -/
theorem get?_bumpAll {c : Counter κ} {seen : List κ}
    (h : ∀ k, c.get? k = presence (seen.count k)) (items : List κ) (k : κ) :
    (c.bumpAll items).get? k = presence ((seen ++ items).count k) := by
  induction items generalizing c seen with
  | nil => simpa [bumpAll] using h k
  | cons item items ih =>
    have hstep : ∀ l, (c.bump item).get? l = presence ((seen ++ [item]).count l) := by
      intro l
      rw [get?_bump, getD_eq, h l, getD_presence, List.count_append, List.count_singleton]
      by_cases hl : item = l
      · simp [hl, presence]
      · simp [hl]
    have hrest := ih hstep
    rwa [List.append_assoc, List.singleton_append] at hrest

/-- Counting one item adds one to the sum of all counts. -/
theorem total_bump (c : Counter κ) (k : κ) : (c.bump k).total = c.total + 1 := by
  have hone : (∑ i : Fin (Kind.size κ), if k = Kind.ofIndex i then 1 else 0) = 1 := by
    rw [Finset.sum_eq_single (Kind.index k)]
    · simp [Kind.ofIndex_index]
    · intro i _ hi
      have hne : k ≠ Kind.ofIndex i := by
        rintro rfl
        exact hi (Kind.index_ofIndex i).symm
      simp [hne]
    · simp
  simp only [total_eq_sum, getD_bump, Finset.sum_add_distrib, hone]

/-- Counting the items of a list adds its length to the sum of all counts. -/
theorem total_bumpAll (c : Counter κ) (items : List κ) :
    (c.bumpAll items).total = c.total + items.length := by
  induction items generalizing c with
  | nil => rfl
  | cons item items ih =>
    have hstep : c.bumpAll (item :: items) = (c.bump item).bumpAll items := rfl
    rw [hstep, ih, total_bump, List.length_cons]
    omega

end Counter

end ClassMill
