import Rollout.Json.Codec
import Rollout.Target

/-!
Roles of a target account. By convention the role is named for the platform and
the provider; otherwise it is looked up for a group of the requester.
-/

namespace Rollout

structure RoleArn where
  text : String
  deriving DecidableEq, Repr

def RoleArn.ofConvention (account : AccountId) (platform provider : String) : RoleArn :=
  ⟨"arn:aws:iam::" ++ account.text ++ ":role/" ++ platform ++ "-" ++ provider
    ++ "-operations-role"⟩

def RoleArn.toJson (role : RoleArn) : Json := .string role.text

def RoleArn.decode : Decoder RoleArn := fun depth doc => (Decoder.string depth doc).map .mk

instance : Codec RoleArn := ⟨RoleArn.decode, RoleArn.toJson⟩

inductive RoleStrategy where
  | convention
  | groupMapping
  deriving DecidableEq, Repr

/-- What stands in the way of credentials for a role. -/
inductive CredentialError where
  | rejected (role : String) (reason : String)
  | emptyCredentials (role : String)
  | noRoleMapping (account : String) (requester : String)
  | lookupFailed (reason : String)
  deriving DecidableEq, Repr

def CredentialError.message : CredentialError → String
  | .rejected role reason => "assume role " ++ role ++ " failed: " ++ reason
  | .emptyCredentials role => "assume role " ++ role ++ " returned an empty credential set"
  | .noRoleMapping account requester =>
    "no role mapping for requester '" ++ requester ++ "' in account " ++ account
  | .lookupFailed reason => "role mapping lookup failed: " ++ reason

instance : Failure CredentialError where
  message := CredentialError.message
  kind
    | .rejected _ _ => "AssumeRoleRejected"
    | .emptyCredentials _ => "EmptyCredentials"
    | .noRoleMapping _ _ => "NoRoleMapping"
    | .lookupFailed _ => "RoleLookup"

/-- The role that was to be assumed, once one was known. -/
def CredentialError.role? : CredentialError → Option String
  | .rejected role _ => some role
  | .emptyCredentials role => some role
  | .noRoleMapping _ _ => none
  | .lookupFailed _ => none

/-- The key of the mapping table. -/
def mappingKey (account : AccountId) (group : String) : String := account.text ++ "-" ++ group

end Rollout
