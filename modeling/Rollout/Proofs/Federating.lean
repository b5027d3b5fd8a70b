import Rollout.Credential.Federation
import Rollout.Proofs.Runs

/-!
The ways to a grant. Texts are checked before anyone is asked, a role is looked
up before it is assumed, and it is assumed once; whoever answers, what comes of
it is a grant for that role or an error that says where the way ended.
-/

namespace Rollout

open Dialogue
open Time (Instant)

namespace Federation

/-- A group for which there is no role. -/
def roleless (account : AccountId) (group : String) : Exchange Call Call.Answer :=
  ⟨.findRole account group, .ok none⟩

/-- Groups are asked for in their order up to the first that has a role or cannot be looked up. -/
inductive Searched (account : AccountId) (name : String) (groups : List String) :
    Trace → Except CredentialError RoleArn → Prop
  | found {before after : List String} {group : String} {role : RoleArn}
      (split : groups = before ++ group :: after) :
      Searched account name groups
        (before.map (roleless account) ++ [⟨.findRole account group, .ok (some role)⟩]) (.ok role)
  | failed {before after : List String} {group : String} {e : CredentialError}
      (split : groups = before ++ group :: after) :
      Searched account name groups
        (before.map (roleless account) ++ [⟨.findRole account group, .error e⟩]) (.error e)
  | exhausted : Searched account name groups (groups.map (roleless account))
      (.error (.noRoleMapping account.text name))

/-- The role of a requester, and the questions it took. -/
inductive Resolved (settings : FederationSettings) (account : AccountId) (provider : String)
    (requester : Requester) : Trace → Except CredentialError RoleArn → Prop
  | named (strategy : settings.strategy = .convention) :
      Resolved settings account provider requester []
        (.ok (.ofConvention account settings.platform provider))
  | mapped {trace : Trace} {result : Except CredentialError RoleArn}
      (strategy : settings.strategy = .groupMapping)
      (searched : Searched account requester.name requester.mappableGroups trace result) :
      Resolved settings account provider requester trace result

/-- What the issuer is asked for, within its limits. -/
structure Requested (requester : Requester) (region : Region) (role : RoleArn)
    (request : AssumeRole) : Prop where
  role : request.role = role
  region : request.region = region
  duration : request.durationSeconds = 3600
  bounded : request.sessionName.length ≤ 64
  allowed : ∀ c ∈ request.sessionName.toList,
    c.isAlphanum = true ∨ c ∈ ['_', '+', '=', ',', '.', '@', '-']
  named : requester.name ≠ "" → 2 ≤ request.sessionName.length

/-- A grant of what was issued, for an hour at most. -/
structure Granted (account : AccountId) (region : Region) (role : RoleArn) (requester : Requester)
    (issued : IssuedCredentials) (grant : Grant) : Prop where
  account : grant.account = account
  region : grant.region = region
  role : grant.role = role
  requester : grant.requester = requester
  accessKey : grant.accessKeyId = issued.accessKeyId ∧ grant.accessKeyId ≠ ""
  secretKey : grant.secretAccessKey = issued.secretAccessKey ∧ grant.secretAccessKey ≠ ""
  sessionToken : grant.sessionToken = issued.sessionToken ∧ grant.sessionToken ≠ ""
  lifetime : 1 ≤ grant.lifetimeSeconds ∧ grant.lifetimeSeconds ≤ 3600

/-- Credentials that are not worth a grant. -/
inductive Worthless (issued : IssuedCredentials) (now : Instant) : Prop
  | accessKey (empty : issued.accessKeyId = "")
  | secretKey (empty : issued.secretAccessKey = "")
  | sessionToken (empty : issued.sessionToken = "")
  | expired {instant : Instant} (expiration : issued.expiration = some instant)
      (past : instant.secondsSince now ≤ 0)

/-- The ways of a federation: what was asked and what came of it. -/
inductive Federated (settings : FederationSettings) (accountText regionText provider : String)
    (requester : Requester) : Trace → Except FederationError Grant → Prop
  | badAccount {e : ValidationError} (account : AccountId.parse accountText = .error e) :
      Federated settings accountText regionText provider requester [] (.error (.validation e))
  | badRegion {account : AccountId} {e : ValidationError}
      (parsed : AccountId.parse accountText = .ok account)
      (region : Region.parse regionText = .error e) :
      Federated settings accountText regionText provider requester [] (.error (.validation e))
  | unresolved {account : AccountId} {region : Region} {lookups : Trace} {e : CredentialError}
      (parsed : AccountId.parse accountText = .ok account)
      (parsed' : Region.parse regionText = .ok region)
      (resolved : Resolved settings account provider requester lookups (.error e)) :
      Federated settings accountText regionText provider requester lookups
        (.error (.credential e))
  | refused {account : AccountId} {region : Region} {lookups : Trace} {role : RoleArn}
      {request : AssumeRole} {e : CredentialError}
      (parsed : AccountId.parse accountText = .ok account)
      (parsed' : Region.parse regionText = .ok region)
      (resolved : Resolved settings account provider requester lookups (.ok role))
      (requested : Requested requester region role request) :
      Federated settings accountText regionText provider requester
        (lookups ++ [⟨.assumeRole request, .error e⟩]) (.error (.credential e))
  | rejected {account : AccountId} {region : Region} {lookups : Trace} {role : RoleArn}
      {request : AssumeRole} {issued : IssuedCredentials} {now : Instant} {e : CredentialError}
      (parsed : AccountId.parse accountText = .ok account)
      (parsed' : Region.parse regionText = .ok region)
      (resolved : Resolved settings account provider requester lookups (.ok role))
      (requested : Requested requester region role request)
      (worthless : Worthless issued now) (names : e.role? = some role.text) :
      Federated settings accountText regionText provider requester
        (lookups ++ [⟨.assumeRole request, .ok issued⟩, ⟨.clock, now⟩]) (.error (.credential e))
  | granted {account : AccountId} {region : Region} {lookups : Trace} {role : RoleArn}
      {request : AssumeRole} {issued : IssuedCredentials} {now : Instant} {grant : Grant}
      (parsed : AccountId.parse accountText = .ok account)
      (parsed' : Region.parse regionText = .ok region)
      (resolved : Resolved settings account provider requester lookups (.ok role))
      (requested : Requested requester region role request)
      (granted : Granted account region role requester issued grant) :
      Federated settings accountText regionText provider requester
        (lookups ++ [⟨.assumeRole request, .ok issued⟩, ⟨.clock, now⟩]) (.ok grant)

section SessionName

variable (requester : Requester) (suffix : String)

theorem sessionName_toList : (sessionName requester suffix).toList =
    ((requester.name ++ "-" ++ suffix).toList.map fun c =>
      if isSessionChar c then c else '-').take 64 := by
  rw [sessionName, String.toList_ofList]
  rfl

theorem sessionName_bounded : (sessionName requester suffix).length ≤ 64 := by
  rw [← String.length_toList, sessionName_toList, List.length_take]
  omega

theorem sessionName_allowed {c : Char} (member : c ∈ (sessionName requester suffix).toList) :
    c.isAlphanum = true ∨ c ∈ ['_', '+', '=', ',', '.', '@', '-'] := by
  rw [sessionName_toList] at member
  obtain ⟨original, _, rfl⟩ := List.mem_map.mp (List.mem_of_mem_take member)
  split
  · rename_i fine
    simpa [isSessionChar] using fine
  · right
    simp

/-- Between requester and suffix stands a hyphen. -/
theorem sessionName_named (named : requester.name ≠ "") :
    2 ≤ (sessionName requester suffix).length := by
  have begins : 1 ≤ requester.name.length := by
    rw [Nat.one_le_iff_ne_zero]
    simpa using named
  rw [← String.length_toList, sessionName_toList, List.length_take, List.length_map,
    String.length_toList, String.length_append, String.length_append]
  change 2 ≤ min 64 (requester.name.length + 1 + suffix.length)
  omega

theorem requested_sessionName (settings : FederationSettings) (region : Region) (role : RoleArn) :
    Requested requester region role
      ⟨role, sessionName requester settings.sessionSuffix, Grant.longestLifetime, region⟩ where
  role := rfl
  region := rfl
  duration := rfl
  bounded := sessionName_bounded ..
  allowed := fun _ member => sessionName_allowed _ _ member
  named := sessionName_named _ _

end SessionName

section Issued

variable (account : AccountId) (region : Region) (role : RoleArn) (requester : Requester)
  (issued : IssuedCredentials) (now : Instant)

/-- What was issued is a grant for the role, or is refused in the name of the role. -/
theorem ofIssued_cases :
    (∃ grant, Grant.ofIssued account region role requester issued now = .ok grant ∧
      Granted account region role requester issued grant) ∨
    ∃ e, Grant.ofIssued account region role requester issued now = .error e ∧
      Worthless issued now ∧ e.role? = some role.text := by
  unfold Grant.ofIssued
  split
  · rename_i blank
    right
    simp only [Bool.or_eq_true, String.isEmpty_iff] at blank
    refine ⟨_, rfl, ?_, rfl⟩
    obtain (empty | empty) | empty := blank
    · exact .accessKey empty
    · exact .secretKey empty
    · exact .sessionToken empty
  · rename_i filled
    simp only [Bool.or_eq_true, String.isEmpty_iff, not_or] at filled
    obtain ⟨⟨accessKey, secretKey⟩, sessionToken⟩ := filled
    have granted (left : Nat) (positive : 0 < left) : Granted account region role requester issued
        (Grant.ofIssued.grant account region role requester issued left) :=
      ⟨rfl, rfl, rfl, rfl, ⟨rfl, accessKey⟩, ⟨rfl, secretKey⟩, ⟨rfl, sessionToken⟩,
        by simp [Grant.ofIssued.grant, Grant.longestLifetime]; omega⟩
    cases expiration : issued.expiration with
    | none =>
        left
        exact ⟨_, rfl, granted 3600 (by decide)⟩
    | some instant =>
        by_cases past : instant.secondsSince now ≤ 0
        · right
          exact ⟨_, if_pos past, .expired expiration past, rfl⟩
        · left
          have lasts : 0 < (instant.secondsSince now).toNat := by omega
          exact ⟨_, if_neg past, granted _ lasts⟩

end Issued

section Runs

variable {settings : FederationSettings} {account : AccountId} {provider : String}
  {requester : Requester} {trace : Trace}

theorem searched_cons {name group : String} {groups : List String}
    {result : Except CredentialError RoleArn}
    (searched : Searched account name groups trace result) :
    Searched account name (group :: groups) (roleless account group :: trace) result := by
  cases searched with
  | @found before after other _ split =>
      have longer : group :: groups = (group :: before) ++ other :: after := by rw [split]; rfl
      exact .found longer
  | @failed before after other _ split =>
      have longer : group :: groups = (group :: before) ++ other :: after := by rw [split]; rfl
      exact .failed longer
  | exhausted => exact .exhausted

theorem firstMapped_ran {name : String} {groups : List String}
    {outcome : Option (Except CredentialError RoleArn)}
    (ran : (firstMapped account name groups).Ran trace outcome) :
    ∃ result, outcome = some result ∧ Searched account name groups trace result := by
  induction groups generalizing trace with
  | nil =>
      obtain ⟨rfl, rfl⟩ := ran_done.mp ran
      exact ⟨_, rfl, .exhausted⟩
  | cons group groups ih =>
      obtain ⟨answer, rest, rfl, following⟩ := ran_ask.mp ran
      have front : group :: groups = [] ++ group :: groups := rfl
      match answer with
      | .error e =>
          obtain ⟨rfl, rfl⟩ := ran_done.mp following
          exact ⟨_, rfl, .failed front⟩
      | .ok (some role) =>
          obtain ⟨rfl, rfl⟩ := ran_done.mp following
          exact ⟨_, rfl, .found front⟩
      | .ok none =>
          obtain ⟨result, rfl, searched⟩ := ih following
          exact ⟨result, rfl, searched_cons searched⟩

theorem resolveRole_ran {outcome : Option (Except CredentialError RoleArn)}
    (ran : (resolveRole settings account provider requester).Ran trace outcome) :
    ∃ result, outcome = some result ∧
      Resolved settings account provider requester trace result := by
  unfold resolveRole at ran
  cases strategy : settings.strategy with
  | convention =>
      rw [strategy] at ran
      obtain ⟨rfl, rfl⟩ := ran_done.mp ran
      exact ⟨_, rfl, .named strategy⟩
  | groupMapping =>
      rw [strategy] at ran
      obtain ⟨result, rfl, searched⟩ := firstMapped_ran ran
      exact ⟨result, rfl, .mapped strategy searched⟩

/-- Every federation ends, in one of the six ways. -/
theorem federates_once {accountText regionText : String}
    {outcome : Option (Except FederationError Grant)}
    (ran : (federate settings accountText regionText provider requester).Ran trace outcome) :
    ∃ result, outcome = some result ∧
      Federated settings accountText regionText provider requester trace result := by
  unfold federate at ran
  cases parsed : AccountId.parse accountText with
  | error e =>
      rw [parsed] at ran
      obtain ⟨rfl, rfl⟩ := ran_done.mp ran
      exact ⟨_, rfl, .badAccount parsed⟩
  | ok account =>
      rw [parsed] at ran
      cases parsed' : Region.parse regionText with
      | error e =>
          simp only [parsed'] at ran
          obtain ⟨rfl, rfl⟩ := ran_done.mp ran
          exact ⟨_, rfl, .badRegion parsed parsed'⟩
      | ok region =>
          simp only [parsed'] at ran
          rcases ran_bind.mp ran with ⟨stopped, _⟩ | ⟨lookups, rest, found, rfl, resolving, following⟩
          · -- Looking up a role ends by itself.
            obtain ⟨_, absurdity, _⟩ := resolveRole_ran stopped
            cases absurdity
          obtain ⟨_, same, resolved⟩ := resolveRole_ran resolving
          cases same
          cases found with
          | error e =>
              obtain ⟨rfl, rfl⟩ := ran_done.mp following
              rw [List.append_nil]
              exact ⟨_, rfl, .unresolved parsed parsed' resolved⟩
          | ok role =>
              obtain ⟨answer, _, rfl, ended⟩ := ran_ask.mp following
              have requested := requested_sessionName requester settings region role
              cases answer with
              | error e =>
                  obtain ⟨rfl, rfl⟩ := ran_done.mp ended
                  exact ⟨_, rfl, .refused parsed parsed' resolved requested⟩
              | ok issued =>
                  obtain ⟨now, _, rfl, last⟩ := ran_ask.mp ended
                  obtain ⟨rfl, rfl⟩ := ran_done.mp last
                  refine ⟨_, rfl, ?_⟩
                  rcases ofIssued_cases account region role requester issued now with
                    ⟨grant, issue, granted⟩ | ⟨e, issue, worthless, names⟩
                  · rw [issue]
                    exact .granted parsed parsed' resolved requested granted
                  · rw [issue]
                    exact .rejected parsed parsed' resolved requested worthless names

end Runs

namespace Sample

def settings : FederationSettings := ⟨"opa", .groupMapping, "deploy"⟩

def requester : Requester := ⟨"ada (ops)", ["Everyone", "dev", "ops"]⟩

/-- Only one group has a role. -/
def answer : (c : Call) → c.Answer
  | .providers _ => .ok []
  | .findRole _ group => .ok (if group = "ops" then some ⟨"role/ops"⟩ else none)
  | .assumeRole _ => .ok ⟨"key", "secret", "token", some ⟨900, 0⟩⟩
  | .parameter _ _ => .ok none
  | .startExecution _ _ _ => .error (.transport "down")
  | .describe _ _ => .error (.transport "down")
  | .history _ _ _ => .ok []
  | .stamp => (1 : Int)
  | .append _ _ _ => .ok ()
  | .clock => Instant.epoch
  | .sleep _ => ()
  | .showEvent _ _ => ()
  | .showHeartbeat _ _ _ _ => ()

def federation : Program (Except FederationError Grant) :=
  federate settings " 000011112222" "us-east-1" "east" requester

def grant : Grant :=
  ⟨⟨"000011112222"⟩, ⟨"us-east-1"⟩, ⟨"role/ops"⟩, requester, "key", "secret", "token", 900,
    some ⟨900, 0⟩⟩

end Sample

theorem sample_federates_once : ∃ trace grant, Sample.federation.Ran trace (some (.ok grant)) ∧
    Federated Sample.settings " 000011112222" "us-east-1" "east" Sample.requester trace
      (.ok grant) ∧
    grant.role = ⟨"role/ops"⟩ ∧ grant.lifetimeSeconds = 900 ∧ trace.map Exchange.question = [
      .findRole ⟨"000011112222"⟩ "dev", .findRole ⟨"000011112222"⟩ "ops",
      .assumeRole ⟨⟨"role/ops"⟩, "ada--ops--deploy", 3600, ⟨"us-east-1"⟩⟩, .clock] := by
  have groups : Sample.requester.mappableGroups = ["dev", "ops"] := by decide +kernel
  have account : AccountId.parse " 000011112222" = .ok ⟨"000011112222"⟩ := rfl
  have region : Region.parse "us-east-1" = .ok ⟨"us-east-1"⟩ := rfl
  have resolving : resolveRole Sample.settings ⟨"000011112222"⟩ "east" Sample.requester =
      firstMapped ⟨"000011112222"⟩ "ada (ops)" ["dev", "ops"] := by
    rw [← groups]
    rfl
  have issued : (Sample.federation.answered Sample.answer).2 = some (.ok Sample.grant) := by
    simp only [Sample.federation, federate, account, region, resolving]
    rfl
  have ran := answered_ran Sample.answer Sample.federation
  rw [issued] at ran
  obtain ⟨_, same, ways⟩ := federates_once ran
  cases same
  refine ⟨_, Sample.grant, ran, ways, rfl, rfl, ?_⟩
  simp only [Sample.federation, federate, account, region, resolving]
  rfl

end Federation

end Rollout
