import Rollout.Deployment.Program

/-!
Exchanging the platform's own identity for a grant in the target account: check
the account and region, pick the role, assume it, refuse credentials that are
empty or expired.
-/

namespace Rollout

structure FederationSettings where
  platform : String
  strategy : RoleStrategy
  sessionSuffix : String
  deriving DecidableEq, Repr

namespace Federation

def longestSessionName : Nat := 64

def isSessionChar (c : Char) : Bool :=
  c.isAlphanum || ['_', '+', '=', ',', '.', '@', '-'].contains c

/-- Requester and suffix, what a session name may not hold replaced by hyphens. -/
def sessionName (requester : Requester) (suffix : String) : String :=
  String.ofList (((requester.name ++ "-" ++ suffix).toList.map fun c =>
    if isSessionChar c then c else '-').take longestSessionName)

/-- The role of the first group that has one. -/
def firstMapped (account : AccountId) (requester : String) :
    List String → Program (Except CredentialError RoleArn)
  | [] => .done (.error (.noRoleMapping account.text requester))
  | group :: rest => do
    match ← Program.call (.findRole account group) with
    | .error e => return .error e
    | .ok (some role) => return .ok role
    | .ok none => firstMapped account requester rest

def resolveRole (settings : FederationSettings) (account : AccountId) (provider : String)
    (requester : Requester) : Program (Except CredentialError RoleArn) :=
  match settings.strategy with
  | .convention => .done (.ok (.ofConvention account settings.platform provider))
  | .groupMapping => firstMapped account requester.name requester.mappableGroups

def assume (settings : FederationSettings) (account : AccountId) (region : Region)
    (requester : Requester) (role : RoleArn) : Program (Except FederationError Grant) := do
  let request : AssumeRole := {
    role
    sessionName := sessionName requester settings.sessionSuffix
    durationSeconds := Grant.longestLifetime
    region }
  match ← Program.call (.assumeRole request) with
  | .error e => return .error (.credential e)
  | .ok issued =>
    let now ← Program.call .clock
    return (Grant.ofIssued account region role requester issued now).mapError .credential

def federate (settings : FederationSettings) (accountText regionText provider : String)
    (requester : Requester) : Program (Except FederationError Grant) :=
  match AccountId.parse accountText with
  | .error e => .done (.error (.validation e))
  | .ok account =>
    match Region.parse regionText with
    | .error e => .done (.error (.validation e))
    | .ok region => do
      match ← resolveRole settings account provider requester with
      | .error e => return .error (.credential e)
      | .ok role => assume settings account region requester role

end Federation

end Rollout
