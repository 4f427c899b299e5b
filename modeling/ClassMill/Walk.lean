import ClassMill.Tree.ClassDecl

/-!
# Walking a class

A walk visits a tree in source order and reports what it meets as a list of events. Classes,
methods and the bodies of blocks are scopes, which are entered and left.
-/

namespace ClassMill

/-- What a walk meets. -/
inductive Event
  | enter
  | exit
  | property (p : Property)
  | declaration (l : Local)
  | result (value : UInt64)
  | leaf (statement : Leaf)
  | condition (c : Condition)
  deriving DecidableEq

namespace Event

/-- The events of a scope. -/
def scope (inner : List Event) : List Event := .enter :: (inner ++ [.exit])

/-- The number of open scopes after an event. -/
def depthAfter (depth : Nat) : Event → Nat
  | .enter => depth + 1
  | .exit => depth - 1
  | _ => depth

/-- Whether an event enters or leaves a scope. -/
def isScope : Event → Bool
  | .enter | .exit => true
  | _ => false

/-- The number of open scopes after each event that changes it. -/
def scopeDepths (depth : Nat) : List Event → List Nat
  | [] => []
  | event :: rest =>
    let depth := event.depthAfter depth
    if event.isScope then depth :: scopeDepths depth rest else scopeDepths depth rest

end Event

mutual

/-- The events of a section. -/
def Section.events : Section → List Event
  | .leaf statement => [.leaf statement]
  | .branch chain => chain.events
  | .loop _ _ _ body => Event.scope body.events

/-- The events of the branches of an if chain. -/
def Chain.events : Chain → List Event
  | .empty => []
  | .otherwise body => Event.scope body.events
  | .conditional condition body rest =>
    .condition condition :: (Event.scope body.events ++ rest.events)

end

/-- The events of a method. -/
def Method.events (m : Method) : List Event :=
  Event.scope (m.locals.map .declaration ++ m.sections.flatMap Section.events ++ [.result m.result])

/-- The events of a class. -/
def ClassDecl.events (c : ClassDecl) : List Event :=
  Event.scope (c.properties.map .property ++ c.methods.flatMap Method.events)

end ClassMill
