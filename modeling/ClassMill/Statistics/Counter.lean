import ClassMill.Fault
import ClassMill.Tree.Property
import ClassMill.Tree.Section

/-!
# Counters by kind

A counter holds a count for some of finitely many kinds. A kind that was never counted is
absent, which differs from a count of zero, and the kinds have a fixed order.
-/

namespace ClassMill

/-- A type of finitely many kinds in a fixed order. -/
class Kind (κ : Type) where
  size : Nat
  index : κ → Fin size
  ofIndex : Fin size → κ
  ofIndex_index (k : κ) : ofIndex (index k) = k
  index_ofIndex (i : Fin size) : index (ofIndex i) = i

/-- The kinds in order. -/
def Kind.all (κ : Type) [Kind κ] : List κ := List.ofFn ofIndex

instance : Kind SectionKind where
  size := 4
  index
    | .print => 0
    | .throw => 1
    | .branch => 2
    | .loop => 3
  ofIndex i := SectionKind.all[i]
  ofIndex_index k := by cases k <;> rfl
  index_ofIndex := by decide

instance : Kind PropertyType where
  size := 7
  index
    | .int => 0
    | .string => 1
    | .boolean => 2
    | .double => 3
    | .float => 4
    | .long => 5
    | .short => 6
  ofIndex i := PropertyType.all[i]
  ofIndex_index k := by cases k <;> rfl
  index_ofIndex := by decide

/-- A sum of counts, a fault where it leaves 64 bits. -/
def checkedSum (a b : Nat) : Except Fault Nat :=
  if a + b < UInt64.size then .ok (a + b) else .error .addOverflow

/-- A count for some of the kinds. -/
structure Counter (κ : Type) [Kind κ] where
  slots : Vector (Option Nat) (Kind.size κ)
  deriving DecidableEq

namespace Counter

variable {κ : Type} [Kind κ]

/-- Nothing counted yet. -/
def empty : Counter κ := ⟨Vector.replicate _ none⟩

/-- The count of a kind, if it was ever counted. -/
def get? (c : Counter κ) (k : κ) : Option Nat := c.slots[Kind.index k]

/-- The count of a kind, zero if it was never counted. -/
def getD (c : Counter κ) (k : κ) : Nat := (c.get? k).getD 0

/-- Replaces the count of a kind. -/
def set (c : Counter κ) (k : κ) (n : Nat) : Counter κ :=
  ⟨c.slots.set (Kind.index k).val (some n)⟩

/-- Counts a kind once more. -/
def bump (c : Counter κ) (k : κ) : Counter κ := c.set k (c.getD k + 1)

/-- The kinds that were counted, in order, with their counts. -/
def toList (c : Counter κ) : List (κ × Nat) :=
  (Kind.all κ).filterMap fun k => (c.get? k).map (k, ·)

/-- The counter with the given counts; a later count of a kind replaces an earlier one. -/
def ofList (entries : List (κ × Nat)) : Counter κ :=
  entries.foldl (fun c entry => c.set entry.1 entry.2) empty

/-- The sum of all counts. -/
def total (c : Counter κ) : Nat := c.toList.foldr (fun entry rest => entry.2 + rest) 0

/-- Adds counts to a counter one after another. -/
def addList (c : Counter κ) : List (κ × Nat) → Except Fault (Counter κ)
  | [] => .ok c
  | (k, n) :: entries => do
    let sum ← checkedSum (c.getD k) n
    (c.set k sum).addList entries

/-- Adds the counts of another counter. -/
def add (c d : Counter κ) : Except Fault (Counter κ) := c.addList d.toList

@[simp]
theorem get?_empty (k : κ) : (empty : Counter κ).get? k = none := by
  simp [empty, get?]

theorem get?_set (c : Counter κ) (k l : κ) (n : Nat) :
    (c.set k n).get? l = if Kind.index k = Kind.index l then some n else c.get? l := by
  simp only [get?, set]
  by_cases h : Kind.index k = Kind.index l
  · simp [h]
  · rw [if_neg h]
    have hval : (Kind.index k).val ≠ (Kind.index l).val := fun e => h (Fin.ext e)
    exact Vector.getElem_set_ne _ _ hval

/-- Counters that agree on every kind are equal. -/
theorem ext_get? {c d : Counter κ} (h : ∀ k, c.get? k = d.get? k) : c = d := by
  obtain ⟨c⟩ := c
  obtain ⟨d⟩ := d
  congr
  apply Vector.ext
  intro i hi
  have hk := h (Kind.ofIndex ⟨i, hi⟩)
  simp only [get?, Kind.index_ofIndex] at hk
  exact hk

end Counter

end ClassMill
