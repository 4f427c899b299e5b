import ClassMill.Generation.Batch
import ClassMill.Proofs.Random.Outcome

/-!
# Batches and single classes

A batch generates its classes one call at a time. However many calls are made, they give the
classes that as many generations in a row give, and a call after the last class draws nothing. So
neither the number of classes asked for nor the call where a batch is left shows in the classes
before.
-/

namespace ClassMill

open ClassMill.Random

namespace Batch

/-- The answers to calls, without what is left. -/
def outputs (b : Batch) (count : Nat) : Draw (List (Option Generated)) := do
  let answers ← b.calls count
  return answers.map Prod.fst

/-- The numbers of classes left before each of the answered calls and after the last of them. -/
def lengths (b : Batch) (answers : List (Option Generated × Batch)) : List Nat :=
  b.remaining :: answers.map fun answer => answer.2.remaining

end Batch

namespace ClassGenerator

variable (g : ClassGenerator) (ctx : Context)

/-- A batch without classes left draws nothing. -/
theorem next_batch_zero : (g.batch ctx 0).next = return (none, g.batch ctx 0) := rfl

theorem next_batch_succ (n : Nat) :
    (g.batch ctx (n + 1)).next = do
      let output ← g.generate ctx
      return (some output, g.batch ctx n) :=
  rfl

/-- What `k` calls on a batch of `n` classes answer, when the classes generated in a row are the
given outputs: the output that is due, if one is, and the batch without the classes before it. -/
def answers (n k : Nat) (outputs : List Generated) : List (Option Generated × Batch) :=
  (List.range k).map fun i => (outputs[i]?, g.batch ctx (n - (i + 1)))

theorem answers_zero (k : Nat) :
    g.answers ctx 0 (k + 1) [] = (none, g.batch ctx 0) :: g.answers ctx 0 k [] := by
  simp [answers, List.range_succ_eq_map, Function.comp_def]

theorem answers_succ (n k : Nat) (output : Generated) (outputs : List Generated) :
    g.answers ctx (n + 1) (k + 1) (output :: outputs) =
      (some output, g.batch ctx n) :: g.answers ctx n k outputs := by
  simp [answers, List.range_succ_eq_map, Function.comp_def, Nat.add_sub_add_right]

/-- The calls on a batch are generations in a row, as many as there are calls and classes. -/
theorem calls_eq_times (n k : Nat) :
    (g.batch ctx n).calls k = do
      let outputs ← Draw.times (g.generate ctx) (min k n)
      return g.answers ctx n k outputs := by
  induction k generalizing n with
  | zero => simp [Batch.calls, Draw.times, answers]
  | succ k ih =>
    rw [Batch.calls]
    cases n with
    | zero =>
      have hrest := ih 0
      rw [Nat.min_zero, Draw.times, pure_bind] at hrest
      rw [next_batch_zero, pure_bind, hrest, pure_bind, Nat.min_zero, Draw.times, pure_bind,
        answers_zero]
    | succ n =>
      rw [next_batch_succ, Nat.succ_min_succ, Draw.times]
      simp only [bind_assoc, pure_bind, answers_succ, ih n]

/-- The outputs that a batch hands out are all that were generated, and nothing after them. -/
theorem map_fst_answers {n k : Nat} {outputs : List Generated} (h : outputs.length = min k n) :
    (g.answers ctx n k outputs).map Prod.fst =
      outputs.map some ++ List.replicate (k - n) none := by
  apply List.ext_getElem?
  intro i
  simp only [answers, List.map_map, Function.comp_def, List.getElem?_map, List.getElem?_append,
    List.getElem?_replicate, List.length_map]
  by_cases hi : i < k
  · rw [List.getElem?_range hi, Option.map_some]
    split <;> rename_i hlength
    · rw [List.getElem?_eq_getElem hlength, Option.map_some]
    · rw [List.getElem?_eq_none (by omega), if_pos (by omega)]
  · rw [List.getElem?_eq_none (by simpa using hi), Option.map_none]
    split <;> rename_i hlength
    · omega
    · rw [if_neg (by omega)]

theorem lengths_answers (n k : Nat) (outputs : List Generated) :
    (g.batch ctx n).lengths (g.answers ctx n k outputs) =
      (List.range (k + 1)).map fun i => n - min i n := by
  rw [List.range_succ_eq_map, List.map_cons, Nat.zero_min, Nat.sub_zero]
  simp only [Batch.lengths, answers, List.map_map]
  congr 1
  refine List.map_congr_left fun i _ => ?_
  simp only [Function.comp_apply, batch]
  omega

/-- The outputs of the first calls on a batch that is long enough. -/
theorem outputs_of_le {n k : Nat} (h : k ≤ n) :
    (g.batch ctx n).outputs k = do
      let outputs ← Draw.times (g.generate ctx) k
      return outputs.map some := by
  rw [Batch.outputs, calls_eq_times, Nat.min_eq_left h, bind_assoc]
  refine ((Draw.yields_true _).times k).bind_congr fun outputs houtputs => ?_
  rw [pure_bind, map_fst_answers g ctx (by rw [houtputs.1, Nat.min_eq_left h]),
    Nat.sub_eq_zero_of_le h, List.replicate_zero, List.append_nil]

/-- A batch is as many generations in a row, wherever it is interrupted. The first `k` calls on a
batch of `n` classes hand out the outputs of `min k n` generations, in order and from the same
words, and nothing afterwards; the numbers of classes left show how many were generated. A batch
of `m + n` classes is one of `m` and then one of `n`, and the first outputs do not depend on how
many classes were asked for. -/
theorem batch_interrupted :
    (∀ n k : Nat,
      (do
        let answers ← (g.batch ctx n).calls k
        return (answers.map Prod.fst, (g.batch ctx n).lengths answers)) =
      do
        let outputs ← Draw.times (g.generate ctx) (min k n)
        return (outputs.map some ++ List.replicate (k - n) none,
          (List.range (k + 1)).map fun i => n - min i n)) ∧
    (∀ m n : Nat,
      (g.batch ctx (m + n)).outputs (m + n) = do
        let first ← (g.batch ctx m).outputs m
        let rest ← (g.batch ctx n).outputs n
        return first ++ rest) ∧
    ∀ k m n : Nat, (g.batch ctx (k + m)).outputs k = (g.batch ctx (k + n)).outputs k := by
  refine ⟨fun n k => ?_, fun m n => ?_, fun k m n => ?_⟩
  · rw [calls_eq_times, bind_assoc]
    refine ((Draw.yields_true _).times (min k n)).bind_congr fun outputs houtputs => ?_
    rw [pure_bind, map_fst_answers g ctx houtputs.1, lengths_answers]
  · simp only [outputs_of_le g ctx (Nat.le_refl _), Draw.times_add, bind_assoc, pure_bind,
      List.map_append]
  · rw [outputs_of_le g ctx (Nat.le_add_right k m), outputs_of_le g ctx (Nat.le_add_right k n)]

end ClassGenerator

end ClassMill
