import Rollout.Cloud.Api
import Rollout.Credential.Grant
import Rollout.Deployment.Program
import Rollout.Time.Reader

/-!
Assuming a role of the target account with the platform's identity.
-/

namespace Rollout.Cloud.SecurityToken

open Time (Instant)

/-- Seconds are a signed number of 32 bits. -/
def duration (seconds : Nat) : Int := (seconds : Int).bmod (Nat.pow 2 32)

def assumeRequest (r : AssumeRole) : Request :=
  { target := none
    body := .object [
      ("Action", .string "AssumeRole"),
      ("DurationSeconds", .string (toString (duration r.durationSeconds))),
      ("RoleArn", .string r.role.text),
      ("RoleSessionName", .string r.sessionName),
      ("Version", .string "2011-06-15")]
    region := some r.region }

def expirationOf? : Json → Option Instant
  | .string s => Instant.parse s
  | _ => none

def credentialsOf (doc : Json) : Except Fault IssuedCredentials := do
  return {
    accessKeyId := (← textMember "AccessKeyId" doc).getD ""
    secretAccessKey := (← textMember "SecretAccessKey" doc).getD ""
    sessionToken := (← textMember "SessionToken" doc).getD ""
    expiration := some ((← member expirationOf? "Expiration" doc).getD .epoch) }

def readCredentials (reply : Reply) : Except Fault (Option IssuedCredentials) := do
  match ← recordMember "credentials" (← reply.body) with
  | none => return none
  | some doc => return some (← credentialsOf doc)

def read (role : RoleArn) (reply : Reply) : Except CredentialError IssuedCredentials :=
  match readCredentials reply with
  | .ok (some issued) => .ok issued
  | .ok none => .error (.emptyCredentials role.text)
  | .error fault => .error (.rejected role.text fault.message)

end Rollout.Cloud.SecurityToken
