import Rollout.Credential.Requester
import Rollout.Credential.Role
import Rollout.Text.Quoted
import Rollout.Time.Format

/-!
Short-lived credentials for one account and region. A grant lives an hour at
most and never outlives what was issued; its shown form keeps the secrets back.
-/

namespace Rollout

open Time (Instant)

/-- What the issuer hands out. -/
structure IssuedCredentials where
  accessKeyId : String
  secretAccessKey : String
  sessionToken : String
  expiration : Option Instant
  deriving DecidableEq, Repr

structure Grant where
  account : AccountId
  region : Region
  role : RoleArn
  requester : Requester
  accessKeyId : String
  secretAccessKey : String
  sessionToken : String
  lifetimeSeconds : Nat
  expiration : Option Instant
  deriving DecidableEq, Repr

namespace Grant

def longestLifetime : Nat := 3600

def remaining (expiration : Option Instant) (now : Instant) : Int :=
  match expiration with
  | some instant => instant.secondsSince now
  | none => longestLifetime

def ofIssued (account : AccountId) (region : Region) (role : RoleArn) (requester : Requester)
    (issued : IssuedCredentials) (now : Instant) : Except CredentialError Grant :=
  if issued.accessKeyId.isEmpty || issued.secretAccessKey.isEmpty
      || issued.sessionToken.isEmpty then
    .error (.emptyCredentials role.text)
  else
    let left := remaining issued.expiration now
    match issued.expiration with
    | some instant =>
      if left ≤ 0 then
        .error (.rejected role.text ("issued credentials already expired at " ++ instant.plain))
      else .ok (grant left.toNat)
    | none => .ok (grant left.toNat)
where
  grant (left : Nat) : Grant :=
    { account, region, role, requester
      accessKeyId := issued.accessKeyId
      secretAccessKey := issued.secretAccessKey
      sessionToken := issued.sessionToken
      lifetimeSeconds := min left longestLifetime
      expiration := issued.expiration }

end Grant

/-- Name, then fields between braces. -/
def shownRecord (name : String) (fields : List (String × String)) : String :=
  name ++ " \x7b " ++ ", ".intercalate (fields.map fun (key, value) => key ++ ": " ++ value)
    ++ " \x7d"

def shownField (name value : String) : String := name ++ "(" ++ Text.quoted value ++ ")"

def redacted : String := Text.quoted "<redacted>"

def IssuedCredentials.shown (issued : IssuedCredentials) : String :=
  shownRecord "IssuedCredentials" [
    ("access_key_id", Text.quoted issued.accessKeyId),
    ("secret_access_key", redacted),
    ("session_token", redacted),
    ("expiration", match issued.expiration with
      | some instant => "Some(" ++ instant.rfc3339 ++ ")"
      | none => "None")]

def Grant.shown (grant : Grant) : String :=
  shownRecord "CredentialGrant" [
    ("account", shownField "AccountId" grant.account.text),
    ("region", shownField "Region" grant.region.text),
    ("role_arn", shownField "RoleArn" grant.role.text),
    ("requester", Text.quoted grant.requester.name),
    ("access_key_id", Text.quoted grant.accessKeyId),
    ("secret_access_key", redacted),
    ("session_token", redacted),
    ("expires_in_secs", toString grant.lifetimeSeconds)]

end Rollout
