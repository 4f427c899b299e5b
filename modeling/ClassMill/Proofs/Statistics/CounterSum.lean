import ClassMill.Proofs.Statistics.Counter
import ClassMill.Proofs.Statistics.Totals
import Mathlib.Algebra.Order.BigOperators.Group.Finset

/-!
# Sums of counters

Adding a counter to another goes through the held counts one by one and stops at the first sum
that leaves 64 bits. The kinds are distinct, so none of these sums depends on the others: the
counters add up exactly if every count of their sum fits. The sum of several counters holds the
kinds that any of them holds.
-/

namespace ClassMill

theorem checkedSum_eq_ok_iff {a b sum : Nat} :
    checkedSum a b = .ok sum ↔ a + b < UInt64.size ∧ sum = a + b := by
  unfold checkedSum
  split
  · simp [*, eq_comm]
  · simp [*]

theorem eq_addOverflow_of_checkedSum {a b : Nat} {reason : Fault}
    (h : checkedSum a b = .error reason) : reason = .addOverflow := by
  unfold checkedSum at h
  split at h
  · cases h
  · cases h
    rfl

variable {κ : Type} [Kind κ]

theorem Kind.nodup_all : (Kind.all κ).Nodup := by
  refine List.nodup_ofFn.mpr fun i j h => ?_
  rw [← Kind.index_ofIndex i, h, Kind.index_ofIndex]

theorem Kind.mem_all (k : κ) : k ∈ Kind.all κ :=
  List.mem_ofFn.mpr ⟨Kind.index k, Kind.ofIndex_index k⟩

namespace Counter

/-- The counter with given counts. -/
def ofCounts (counts : κ → Option Nat) : Counter κ :=
  ⟨Vector.ofFn fun i => counts (Kind.ofIndex i)⟩

@[simp]
theorem get?_ofCounts (counts : κ → Option Nat) (k : κ) : (ofCounts counts).get? k = counts k := by
  simp [ofCounts, get?, Kind.ofIndex_index]

/-- The counts of two counters together. -/
def plus (c d : Counter κ) : Counter κ :=
  ofCounts fun k => Option.merge (· + ·) (c.get? k) (d.get? k)

/-- Counts added up, absent if there are none. -/
def tally (counts : List Nat) : Option Nat := if counts = [] then none else some counts.sum

/-- The sum of several counters. It holds the kinds that some of them holds, each with the sum of
its counts. -/
def sum (counters : List (Counter κ)) : Counter κ :=
  ofCounts fun k => tally (counters.filterMap (·.get? k))

/-- All counts fit into 64 bits. -/
def Fits (c : Counter κ) : Prop := ∀ k, c.getD k < UInt64.size

theorem getD_merge (a b : Option Nat) :
    (Option.merge (· + ·) a b).getD 0 = a.getD 0 + b.getD 0 := by
  cases a <;> cases b <;> simp

theorem getD_plus (c d : Counter κ) (k : κ) : (c.plus d).getD k = c.getD k + d.getD k := by
  rw [getD_eq, plus, get?_ofCounts, getD_merge, getD_eq, getD_eq]

theorem total_plus (c d : Counter κ) : (c.plus d).total = c.total + d.total := by
  simp only [total_eq_sum, getD_plus, Finset.sum_add_distrib]

theorem getD_le_total (c : Counter κ) (k : κ) : c.getD k ≤ c.total := by
  rw [total_eq_sum]
  have hle := Finset.single_le_sum_of_canonicallyOrdered (f := fun i => c.getD (Kind.ofIndex i))
    (Finset.mem_univ (Kind.index k))
  rwa [Kind.ofIndex_index] at hle

/-! ## Several counters -/

theorem tally_append (counts more : List Nat) :
    tally (counts ++ more) = Option.merge (· + ·) (tally counts) (tally more) := by
  unfold tally
  by_cases hcounts : counts = [] <;> by_cases hmore : more = [] <;> simp [hcounts, hmore]

theorem tally_perm {counts other : List Nat} (h : counts.Perm other) :
    tally counts = tally other := by
  have hnil : counts = [] ↔ other = [] := by
    rw [← List.length_eq_zero_iff, h.length_eq, List.length_eq_zero_iff]
  simp only [tally, hnil, h.sum_nat]

theorem sum_nil : sum ([] : List (Counter κ)) = empty :=
  ext_get? fun k => by simp [sum, tally]

/-- One more counter is added to the sum of the others. -/
theorem sum_concat (counters : List (Counter κ)) (c : Counter κ) :
    sum (counters ++ [c]) = (sum counters).plus c := by
  refine ext_get? fun k => ?_
  rw [sum, get?_ofCounts, List.filterMap_append, tally_append, plus, get?_ofCounts, sum,
    get?_ofCounts]
  congr 1
  cases hk : c.get? k <;> simp [hk, tally]

theorem sum_perm {counters other : List (Counter κ)} (h : counters.Perm other) :
    sum counters = sum other :=
  ext_get? fun k => by rw [sum, get?_ofCounts, sum, get?_ofCounts, tally_perm (h.filterMap _)]

/-- All counts of a sum together. -/
theorem total_sum (counters : List (Counter κ)) :
    (sum counters).total = (counters.map total).sum := by
  induction counters using List.reverseRecOn with
  | nil => rw [sum_nil, total_empty, List.map_nil, List.sum_nil]
  | append_singleton counters c ih =>
    rw [sum_concat, total_plus, ih, List.map_append, List.sum_append, List.map_singleton,
      List.sum_singleton]

/-! ## Adding up -/

/-- Adding counts one by one fails only if a sum leaves 64 bits. -/
theorem eq_addOverflow_of_addList {c : Counter κ} {entries : List (κ × Nat)} {reason : Fault}
    (h : c.addList entries = .error reason) : reason = .addOverflow := by
  induction entries generalizing c with
  | nil => cases h
  | cons entry entries ih =>
    obtain hsum | ⟨sum, -, hrest⟩ := Except.bind_eq_error.mp h
    · exact eq_addOverflow_of_checkedSum hsum
    · exact ih hrest

variable [DecidableEq κ]

theorem get?_set_eq_ite (c : Counter κ) (k l : κ) (n : Nat) :
    (c.set k n).get? l = if l = k then some n else c.get? l := by
  rw [get?_set]
  by_cases hl : l = k
  · rw [if_pos hl, if_pos (by rw [hl])]
  · rw [if_neg hl, if_neg fun h => hl (Kind.index_injective h).symm]

theorem getD_set (c : Counter κ) (k l : κ) (n : Nat) :
    (c.set k n).getD l = if l = k then n else c.getD l := by
  rw [getD_eq, get?_set_eq_ite]
  split <;> rfl

/-- Adding the counts of distinct kinds succeeds exactly if each of the sums fits, and it changes
these kinds only. -/
theorem addList_eq_ok_iff (d : Counter κ) {kinds : List κ} (hkinds : kinds.Nodup)
    {c e : Counter κ} (hc : c.Fits) :
    c.addList (kinds.filterMap fun k => (d.get? k).map (k, ·)) = .ok e ↔
      (∀ k ∈ kinds, c.getD k + d.getD k < UInt64.size) ∧
        ∀ k, e.get? k =
          if k ∈ kinds then Option.merge (· + ·) (c.get? k) (d.get? k) else c.get? k := by
  induction kinds generalizing c with
  | nil =>
    rw [List.filterMap_nil, addList, Except.ok.injEq]
    constructor
    · rintro rfl
      simp
    · rintro ⟨-, he⟩
      exact ext_get? fun k => by simpa using (he k).symm
  | cons k kinds ih =>
    obtain ⟨hk, hkinds⟩ := List.nodup_cons.mp hkinds
    rw [List.forall_mem_cons]
    cases hd : d.get? k with
    | none =>
      -- An absent kind adds nothing, and the kind keeps its count.
      have hfits : c.getD k + d.getD k < UInt64.size := by
        rw [getD_eq d, hd]
        exact hc k
      rw [List.filterMap_cons_none (by rw [hd, Option.map_none]), ih hkinds hc, and_assoc]
      simp only [hfits, true_and]
      refine and_congr_right fun _ => forall_congr' fun l => ?_
      by_cases hl : l = k
      · simp [hl, hk, hd]
      · simp [hl]
    | some n =>
      have hn : d.getD k = n := by rw [getD_eq, hd, Option.getD_some]
      rw [List.filterMap_cons_some (by rw [hd, Option.map_some]), addList, Except.bind_eq_ok, hn,
        and_assoc]
      simp only [checkedSum_eq_ok_iff, and_assoc, exists_and_left, exists_eq_left]
      refine and_congr_right fun hfits => ?_
      have hset : (c.set k (c.getD k + n)).Fits := by
        intro l
        rw [getD_set]
        split
        · exact hfits
        · exact hc l
      rw [ih hkinds hset]
      -- The kinds that follow are other ones, so their counts are the old ones.
      refine and_congr (forall₂_congr fun l hl => ?_) (forall_congr' fun l => ?_)
      · rw [getD_set, if_neg (ne_of_mem_of_not_mem hl hk)]
      · by_cases hl : l = k
        · cases hc' : c.get? k <;> simp [hl, hk, hd, get?_set_eq_ite, getD_eq, hc']
        · simp [hl, get?_set_eq_ite]

/-- Two counters add up exactly if their counts together fit. -/
theorem add_eq_ok_iff {c d e : Counter κ} (hc : c.Fits) :
    c.add d = .ok e ↔ (c.plus d).Fits ∧ e = c.plus d := by
  rw [add, toList, addList_eq_ok_iff d Kind.nodup_all hc]
  refine and_congr ?_ ?_
  · simp only [Fits, getD_plus, Kind.mem_all, true_imp_iff]
  · simp only [Kind.mem_all, if_true]
    constructor
    · intro he
      exact ext_get? fun k => by rw [he, plus, get?_ofCounts]
    · rintro rfl k
      rw [plus, get?_ofCounts]

end Counter

end ClassMill
