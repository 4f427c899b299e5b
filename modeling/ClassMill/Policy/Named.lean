import ClassMill.Refusal

/-!
# Asking for a policy by name

A request may name one of the known policies; without a name the default policy is meant.
-/

namespace ClassMill.Policy

/-- The policy that a request asks for. -/
def resolve : Option String → Except Refusal Policy
  | none => .ok default
  | some name =>
    match find? name with
    | some p => .ok p
    | none => .error (.unknownPolicy name names)

end ClassMill.Policy
