import ClassMill.Walk
import Mathlib.Tactic.Common

/-!
# Balanced walks

A walk leaves every scope that it enters, the scopes inside first. So the number of open scopes
never goes below its value at the start and comes back to it at the end, and the walk of a part of
a tree does not disturb the depth at which the rest is met.
-/

namespace ClassMill

namespace Event

/-- Events in which every scope that is entered is left, the scopes inside first. -/
inductive Balanced : List Event → Prop
  | nil : Balanced []
  | item {event : Event} {rest : List Event} (h : event.isScope = false) (hrest : Balanced rest) :
      Balanced (event :: rest)
  | scope {inner rest : List Event} (hinner : Balanced inner) (hrest : Balanced rest) :
      Balanced (Event.scope inner ++ rest)

theorem count_exit_enter (events : List Event) :
    (Event.enter :: events).count .exit = events.count .exit :=
  List.count_cons_of_ne (by decide)

theorem count_enter_exit (events : List Event) :
    (Event.exit :: events).count .enter = events.count .enter :=
  List.count_cons_of_ne (by decide)

namespace Balanced

theorem single {event : Event} (h : event.isScope = false) : Balanced [event] := .item h .nil

theorem enclosed {inner : List Event} (h : Balanced inner) : Balanced (Event.scope inner) := by
  rw [← List.append_nil (Event.scope inner)]
  exact .scope h .nil

theorem append {events more : List Event} (h : Balanced events) (hmore : Balanced more) :
    Balanced (events ++ more) := by
  induction h with
  | nil => exact hmore
  | item hevent _ ih => exact .item hevent ih
  | scope hinner _ _ ih =>
    rw [List.append_assoc]
    exact .scope hinner ih

theorem map {α : Type} {event : α → Event} (h : ∀ a, (event a).isScope = false) (items : List α) :
    Balanced (items.map event) := by
  induction items with
  | nil => exact .nil
  | cons item items ih => exact .item (h item) ih

theorem flatMap {α : Type} {events : α → List Event} {items : List α}
    (h : ∀ a ∈ items, Balanced (events a)) : Balanced (items.flatMap events) := by
  induction items with
  | nil => exact .nil
  | cons item items ih =>
    obtain ⟨hitem, hitems⟩ := List.forall_mem_cons.mp h
    exact hitem.append (ih hitems)

/-- Balanced events bring the number of open scopes back to what it was. -/
theorem foldl_depthAfter {events : List Event} (h : Balanced events) (depth : Nat) :
    events.foldl depthAfter depth = depth := by
  induction h generalizing depth with
  | nil => rfl
  | @item event rest hevent _ ih =>
    have hdepth : event.depthAfter depth = depth := by
      cases event <;> first | rfl | cases hevent
    rw [List.foldl_cons, hdepth, ih]
  | scope _ _ ihinner ihrest =>
    rw [List.foldl_append, Event.scope, List.foldl_cons, List.foldl_append, ihinner,
      List.foldl_cons, List.foldl_nil, ihrest]
    rfl

/-- Balanced events enter as many scopes as they leave. -/
theorem count_eq {events : List Event} (h : Balanced events) :
    events.count .exit = events.count .enter := by
  induction h with
  | nil => rfl
  | @item event rest hevent _ ih =>
    have hexit : event ≠ .exit := by rintro rfl; cases hevent
    have henter : event ≠ .enter := by rintro rfl; cases hevent
    rw [List.count_cons_of_ne hexit, List.count_cons_of_ne henter, ih]
  | scope _ _ ihinner ihrest =>
    simp only [Event.scope, List.count_append, List.count_cons_self, count_exit_enter,
      count_enter_exit, List.count_nil, ihinner, ihrest]

/-- Balanced events never leave a scope that they have not entered. -/
theorem count_le_of_prefix {events before : List Event} (h : Balanced events)
    (hbefore : before <+: events) : before.count .exit ≤ before.count .enter := by
  induction h generalizing before with
  | nil =>
    rw [List.prefix_nil.mp hbefore]
    exact Nat.le_refl 0
  | @item event rest hevent _ ih =>
    obtain rfl | ⟨tail, rfl, htail⟩ := List.prefix_cons_iff.mp hbefore
    · exact Nat.le_refl 0
    · have hexit : event ≠ .exit := by rintro rfl; cases hevent
      rw [List.count_cons_of_ne hexit]
      exact Nat.le_trans (ih htail) List.count_le_count_cons
  | @scope inner rest hinner _ ihinner ihrest =>
    have hevents : Event.scope inner ++ rest = .enter :: (inner ++ .exit :: rest) := by
      simp [Event.scope]
    rw [hevents] at hbefore
    obtain rfl | ⟨tail, rfl, htail⟩ := List.prefix_cons_iff.mp hbefore
    · exact Nat.le_refl 0
    -- The events end inside the scope, or just before it is left, or after that.
    obtain hinside | ⟨after, rfl⟩ :=
      List.prefix_or_prefix_of_prefix htail (List.prefix_append inner _)
    · have hle := ihinner hinside
      simp only [List.count_cons_self, count_exit_enter]
      omega
    · obtain rfl | ⟨outside, rfl, houtside⟩ :=
        List.prefix_cons_iff.mp ((List.prefix_append_right_inj inner).mp htail)
      · have heq := hinner.count_eq
        simp only [List.append_nil, List.count_cons_self, count_exit_enter]
        omega
      · have hle := ihrest houtside
        have heq := hinner.count_eq
        simp only [List.count_append, List.count_cons_self, count_exit_enter, count_enter_exit]
        omega

end Balanced

end Event

mutual

theorem Section.balanced_events : ∀ s : Section, Event.Balanced s.events
  | .leaf statement => by
    rw [Section.events]
    exact .single rfl
  | .branch chain => by
    rw [Section.events]
    exact chain.balanced_events
  | .loop _ _ _ body => by
    rw [Section.events]
    exact body.balanced_events.enclosed

theorem Chain.balanced_events : ∀ c : Chain, Event.Balanced c.events
  | .empty => by
    rw [Chain.events]
    exact .nil
  | .otherwise body => by
    rw [Chain.events]
    exact body.balanced_events.enclosed
  | .conditional condition body rest => by
    rw [Chain.events]
    exact .item rfl (.scope body.balanced_events rest.balanced_events)

end

theorem Method.balanced_events (m : Method) : Event.Balanced m.events := by
  have hlocals : Event.Balanced (m.locals.map .declaration) := .map (fun _ => rfl) _
  have hsections : Event.Balanced (m.sections.flatMap Section.events) :=
    .flatMap fun s _ => s.balanced_events
  exact ((hlocals.append hsections).append (.single rfl)).enclosed

theorem ClassDecl.balanced_events (c : ClassDecl) : Event.Balanced c.events := by
  have hproperties : Event.Balanced (c.properties.map .property) := .map (fun _ => rfl) _
  have hmethods : Event.Balanced (c.methods.flatMap Method.events) :=
    .flatMap fun m _ => m.balanced_events
  exact (hproperties.append hmethods).enclosed

end ClassMill
