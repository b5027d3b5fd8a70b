/-!
What every error says about itself, and the faults of a request that are found
before anything outside is asked.
-/

namespace Rollout

/-- The short name of an error's kind, and a sentence. -/
class Failure (ε : Type) where
  kind : ε → String
  message : ε → String

inductive ValidationError where
  | invalidAccountId (value : String)
  | invalidRegion (value : String)
  | invalidEntityRef (value : String)
  | empty (field : String)
  deriving DecidableEq, Repr

def ValidationError.message : ValidationError → String
  | .invalidAccountId value =>
    "invalid account id '" ++ value ++ "': expected a 12-digit numeric string"
  | .invalidRegion value =>
    "invalid region '" ++ value ++ "': expected a value such as 'us-east-1'"
  | .invalidEntityRef value =>
    "invalid entity reference '" ++ value ++ "': expected [kind:][namespace/]name"
  | .empty field => field ++ " must not be empty"

instance : Failure ValidationError where
  message := ValidationError.message
  kind
    | .invalidAccountId _ => "InvalidAccountId"
    | .invalidRegion _ => "InvalidRegion"
    | .invalidEntityRef _ => "InvalidEntityRef"
    | .empty _ => "Empty"

end Rollout
