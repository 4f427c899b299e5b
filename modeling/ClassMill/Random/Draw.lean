import ClassMill.Fault
import ClassMill.Random.Source

/-!
# Draws

A draw consumes random words and produces a value or halts. Rejection sampling has no bound
on its own, so every draw is given a number of attempts, which each of its redraws may use up;
all other recursion is on data. Nothing else about a draw depends on that number.
-/

namespace ClassMill.Random

/-- A random computation: given a number of attempts and a source, it yields a value and the
source after it, or the reason why there is none. -/
def Draw (α : Type) : Type := (attempts : Nat) → Source → Except Halt (α × Source)

namespace Draw

/-- Draws nothing. -/
def pure {α : Type} (a : α) : Draw α := fun _ source => .ok (a, source)

/-- Draws twice, the second time depending on the first value. -/
def bind {α β : Type} (x : Draw α) (f : α → Draw β) : Draw β := fun attempts source =>
  match x attempts source with
  | .ok (a, source) => f a attempts source
  | .error halt => .error halt

instance : Monad Draw where
  pure := Draw.pure
  bind := Draw.bind

@[simp]
theorem pure_apply {α : Type} (a : α) (attempts : Nat) (source : Source) :
    (Pure.pure a : Draw α) attempts source = .ok (a, source) :=
  rfl

theorem bind_apply {α β : Type} (x : Draw α) (f : α → Draw β) (attempts : Nat)
    (source : Source) :
    (x >>= f) attempts source =
      match x attempts source with
      | .ok (a, source) => f a attempts source
      | .error halt => .error halt :=
  rfl

/-- A composed draw returns exactly if its first part returns and its second part returns
from there. -/
theorem bind_eq_ok {α β : Type} {x : Draw α} {f : α → Draw β} {attempts : Nat}
    {source : Source} {r : β × Source} :
    (x >>= f) attempts source = .ok r ↔
      ∃ a mid, x attempts source = .ok (a, mid) ∧ f a attempts mid = .ok r := by
  rw [bind_apply]
  cases hx : x attempts source with
  | error halt => simp
  | ok p =>
    constructor
    · intro h
      exact ⟨p.1, p.2, rfl, h⟩
    · rintro ⟨a, mid, h, hf⟩
      cases h
      exact hf

instance : LawfulMonad Draw := LawfulMonad.mk' Draw
  (fun x => by
    funext attempts source
    change Draw.bind x (fun a => Draw.pure a) attempts source = x attempts source
    unfold Draw.bind Draw.pure
    cases x attempts source <;> rfl)
  (fun a f => rfl)
  (fun x f g => by
    funext attempts source
    change Draw.bind (Draw.bind x f) g attempts source =
      Draw.bind x (fun a => Draw.bind (f a) g) attempts source
    unfold Draw.bind
    cases x attempts source <;> rfl)

/-- Halts with a fault, or draws nothing. -/
def ofExcept {α : Type} : Except Fault α → Draw α
  | .ok a => Draw.pure a
  | .error reason => fun _ _ => .error (.fault reason)

/-- Halts with a fault. -/
def fault {α : Type} (reason : Fault) : Draw α := ofExcept (.error reason)

/-- The next 32-bit word. -/
def word32 : Draw UInt32 := fun _ source => .ok source.next32

/-- The next 64-bit word. -/
def word64 : Draw UInt64 := fun _ source => .ok source.next64

/-- Repeats a draw, at most `attempts` times, until `keep` accepts its value. -/
def redrawFrom {α β : Type} (candidate : Source → Except Halt (α × Source))
    (keep : α → Option β) : (attempts : Nat) → Source → Except Halt (β × Source)
  | 0, _ => .error .outOfAttempts
  | attempts + 1, source =>
    match candidate source with
    | .error halt => .error halt
    | .ok (a, source) =>
      match keep a with
      | some b => .ok (b, source)
      | none => redrawFrom candidate keep attempts source

/-- The first value of consecutive draws that `keep` accepts. -/
def redraw {α β : Type} (candidate : Draw α) (keep : α → Option β) : Draw β :=
  fun attempts => redrawFrom (candidate attempts) keep attempts

/-- Draws `n` values in order. -/
def times {α : Type} (x : Draw α) : Nat → Draw (List α)
  | 0 => Pure.pure []
  | n + 1 => do
    let a ← x
    let rest ← times x n
    return a :: rest

/-- Draws one value for each item, in the order of the items. -/
def forEach {α β : Type} (f : α → Draw β) : List α → Draw (List β)
  | [] => Pure.pure []
  | a :: items => do
    let b ← f a
    let rest ← forEach f items
    return b :: rest

/-- Draws a list of `count` items whose storage of `size` bytes an item is reserved first. -/
def listOf {α : Type} (size : Nat) (x : Draw α) (count : Nat) : Draw (List α) := do
  ofExcept (reserve count size)
  times x count

end Draw

end ClassMill.Random
