import ClassMill.Policy.Draft
import ClassMill.Text.Escape

/-!
# Refused requests

A request is refused before any class is generated if it names an unknown tier, dialect or
policy, asks for a number of classes that is not positive, or brings a policy that cannot be
read or is not accepted.
-/

namespace ClassMill

/-- Why a request is refused. -/
inductive Refusal
  | unknownComplexity (text : String)
  | unknownDialect (text : String)
  | invalidCount (count : Int64)
  | unknownPolicy (name : String) (known : List String)
  | malformedPolicy
  | rejectedPolicy (reason : Policy.Rejection)
  deriving DecidableEq

namespace Refusal

/-- A message about the configuration. -/
def configurationMessage (detail : String) : String := "Invalid configuration: " ++ detail

/-- A message about the policy. -/
def policyMessage (detail : String) : String := "Invalid policy: " ++ detail

/-- The wording of a refusal. -/
def message : Refusal → String
  | .unknownComplexity text => configurationMessage ("unknown complexity preset " ++ text)
  | .unknownDialect text => configurationMessage ("unknown dialect " ++ text)
  | .invalidCount count =>
    "Number of classes must be a positive integer, got " ++ toString count.toInt
  | .unknownPolicy name known =>
    policyMessage ("unknown policy " ++ Text.shown name ++ ", choose from " ++
      Text.shownList known)
  | .malformedPolicy => policyMessage "<ron>"
  | .rejectedPolicy reason => policyMessage reason.message

end Refusal

end ClassMill
