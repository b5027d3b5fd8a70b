import Rollout.Deployment.Deploy
import Rollout.Proofs.Twins

/-!
Deployments behind a veil over the secrets of their grants and over the inputs
they hand to an engine. What they ask, record and return does not depend on what
the veil hides, so two of them that differ in nothing else are twins.
-/

namespace Rollout

open Dialogue

/-- What is left of secrets and inputs. Nothing hides whether a secret is there at all. -/
structure Veil where
  secret : String → String
  input : String → String
  secret_isEmpty : ∀ s, (secret s).isEmpty = s.isEmpty

namespace Veil

variable (v : Veil)

def issued (credentials : IssuedCredentials) : IssuedCredentials :=
  { credentials with
    secretAccessKey := v.secret credentials.secretAccessKey
    sessionToken := v.secret credentials.sessionToken }

def grant (g : Grant) : Grant :=
  { g with
    secretAccessKey := v.secret g.secretAccessKey
    sessionToken := v.secret g.sessionToken }

def call : Call → Call
  | .parameter g path => .parameter (v.grant g) path
  | .startExecution g machine input => .startExecution (v.grant g) machine (v.input input)
  | .describe g execution => .describe (v.grant g) execution
  | .history g execution limit => .history (v.grant g) execution limit
  | .append g table record => .append (v.grant g) table record
  | c => c

def answer : (c : Call) → c.Answer → (v.call c).Answer
  | .assumeRole _, .ok credentials => .ok (v.issued credentials)
  | .assumeRole _, .error e => .error e
  | .providers _, found => found
  | .findRole _ _, found => found
  | .parameter _ _, found => found
  | .startExecution _ _ _, started => started
  | .describe _ _, description => description
  | .history _ _ _, window => window
  | .stamp, sequence => sequence
  | .append _ _ _, written => written
  | .clock, now => now
  | .sleep _, rested => rested
  | .showEvent _ _, shown => shown
  | .showHeartbeat _ _ _ _, shown => shown

def calls : View Call Call.Answer := ⟨v.call, v.answer⟩

def step : Step → Step
  | .call c => .call (v.call c)
  | .record g entry => .record (v.grant g) entry

def outcome : (s : Step) → s.Answer → (v.step s).Answer
  | .call c, answer => v.answer c answer
  | .record _ _, outcome => outcome

def steps : View Step Step.Answer := ⟨v.step, v.outcome⟩

variable {v} {one two : Grant}

/-- A veil leaves to be seen where a grant leads to. -/
theorem grant_target (same : v.grant one = v.grant two) :
    one.account = two.account ∧ one.region = two.region ∧ one.role = two.role := by
  have fields := Grant.mk.inj same
  exact ⟨fields.1, fields.2.1, fields.2.2.1⟩

theorem secret_empty {s t : String} (same : v.secret s = v.secret t) : s.isEmpty = t.isEmpty := by
  rw [← v.secret_isEmpty s, same, v.secret_isEmpty]

/-- Credentials that look alike are refused alike or become grants that look alike. -/
theorem ofIssued_agree {a b : IssuedCredentials} (same : v.issued a = v.issued b)
    (account : AccountId) (region : Region) (role : RoleArn) (requester : Requester)
    (now : Time.Instant) :
    Agree (fun one two => v.grant one = v.grant two)
      (Grant.ofIssued account region role requester a now)
      (Grant.ofIssued account region role requester b now) := by
  obtain ⟨key, secret, token, expiration⟩ := a
  obtain ⟨key', secret', token', expiration'⟩ := b
  obtain ⟨rfl, hiddenSecret, hiddenToken, rfl⟩ := IssuedCredentials.mk.inj same
  have grants (left : Nat) :
      v.grant (Grant.ofIssued.grant account region role requester
        ⟨key, secret, token, expiration⟩ left) =
      v.grant (Grant.ofIssued.grant account region role requester
        ⟨key, secret', token', expiration⟩ left) := by
    simp only [Veil.grant, Grant.ofIssued.grant]
    rw [hiddenSecret, hiddenToken]
  simp only [Grant.ofIssued, secret_empty hiddenSecret, secret_empty hiddenToken]
  split
  · exact .error _
  · cases expiration with
    | none => exact .ok (grants _)
    | some instant =>
        dsimp only
        split
        · exact .error _
        · exact .ok (grants _)

section Programs

theorem firstMapped_twins (account : AccountId) (requester : String) (groups : List String) :
    Twins v.calls Eq (Federation.firstMapped account requester groups)
      (Federation.firstMapped account requester groups) := by
  induction groups with
  | nil => exact .done rfl
  | cons group rest ih =>
      refine .ask rfl fun found found' seen => ?_
      obtain rfl : found = found' := eq_of_heq (View.answers seen)
      match found with
      | .error _ => exact .done rfl
      | .ok (some _) => exact .done rfl
      | .ok none => exact ih

theorem resolveRole_twins (settings : FederationSettings) (account : AccountId)
    (provider : String) (requester : Requester) :
    Twins v.calls Eq (Federation.resolveRole settings account provider requester)
      (Federation.resolveRole settings account provider requester) := by
  unfold Federation.resolveRole
  cases settings.strategy with
  | convention => exact .done rfl
  | groupMapping => exact firstMapped_twins account requester.name requester.mappableGroups

theorem assume_twins (settings : FederationSettings) (account : AccountId) (region : Region)
    (requester : Requester) (role : RoleArn) :
    Twins v.calls (Agree fun one two => v.grant one = v.grant two)
      (Federation.assume settings account region requester role)
      (Federation.assume settings account region requester role) := by
  refine .ask rfl fun answer answer' seen => ?_
  have issued := eq_of_heq (View.answers seen)
  -- The one answer of a deployment that holds secrets.
  match answer, answer', issued with
  | .error e, .error e', same =>
      obtain rfl := Except.error.inj same
      exact .done (.error _)
  | .ok _, .ok _, same =>
      refine .ask rfl fun now now' clock => ?_
      obtain rfl : now = now' := eq_of_heq (View.answers clock)
      exact .done ((ofIssued_agree (Except.ok.inj same) ..).mapError _)

theorem federate_twins (settings : FederationSettings) (accountText regionText provider : String)
    (requester : Requester) :
    Twins v.calls (Agree fun one two => v.grant one = v.grant two)
      (Federation.federate settings accountText regionText provider requester)
      (Federation.federate settings accountText regionText provider requester) := by
  unfold Federation.federate
  cases AccountId.parse accountText with
  | error e => exact .done (.error _)
  | ok account =>
      cases Region.parse regionText with
      | error e => exact .done (.error _)
      | ok region =>
          refine twins_bind (resolveRole_twins settings account provider requester) ?_
          rintro role _ rfl
          cases role with
          | error e => exact .done (.error _)
          | ok role => exact assume_twins settings account region requester role

theorem readParameter_twins (same : v.grant one = v.grant two) (path : String) :
    Twins v.calls Eq (readParameter one path) (readParameter two path) := by
  refine .ask (congrArg (Call.parameter · path) same) fun found found' seen => ?_
  obtain rfl : found = found' := eq_of_heq (View.answers seen)
  match found with
  | .error _ => exact .done rfl
  | .ok (some value) => exact .done rfl
  | .ok none => exact .done rfl

theorem write_twins (same : v.grant one = v.grant two) (entry : AuditEntry) (table : String) :
    Twins v.calls Eq (Audit.write one entry table) (Audit.write two entry table) := by
  refine .ask rfl fun sequence sequence' seen => ?_
  obtain rfl : sequence = sequence' := eq_of_heq (View.answers seen)
  refine .ask (congrArg (Call.append · table _) same) fun written written' seen => ?_
  obtain rfl : written = written' := eq_of_heq (View.answers seen)
  cases written with
  | error e => exact .done rfl
  | ok _ => exact .done rfl

theorem record_twins (same : v.grant one = v.grant two) (entry : AuditEntry) :
    Twins v.calls Eq (Audit.record one entry) (Audit.record two entry) := by
  refine twins_bind (readParameter_twins same _) ?_
  rintro table _ rfl
  cases table with
  | error e => exact .done rfl
  | ok table => exact write_twins same entry table

theorem showAll_twins (status : ExecutionStatus) (events : List HistoryEvent) :
    Twins v.calls Eq (Monitor.showAll status events) (Monitor.showAll status events) := by
  induction events with
  | nil => exact .done rfl
  | cons event rest ih => exact .ask rfl fun _ _ _ => ih

theorem pause_twins (settings : MonitorSettings) (s : Monitor.State) (status : ExecutionStatus) :
    Twins v.calls Eq (Monitor.pause settings s status) (Monitor.pause settings s status) := by
  refine .ask rfl fun _ _ _ => ?_
  split
  · exact .ask rfl fun _ _ _ => .done rfl
  · exact .done rfl

theorem poll_twins (same : v.grant one = v.grant two) (settings : MonitorSettings)
    (execution : ExecutionArn) (s : Monitor.State) :
    Twins v.calls Eq (Monitor.poll settings one execution s)
      (Monitor.poll settings two execution s) := by
  refine .ask (congrArg (Call.describe · execution) same) fun details details' seen => ?_
  obtain rfl : details = details' := eq_of_heq (View.answers seen)
  cases details with
  | error e => exact .done rfl
  | ok details =>
      refine .ask (congrArg (Call.history · execution _) same) fun window window' seen => ?_
      obtain rfl : window = window' := eq_of_heq (View.answers seen)
      cases window with
      | error e => exact .done rfl
      | ok window =>
          refine twins_bind (p := Monitor.showAll details.status (s.observe window).1)
            (q := Monitor.showAll details.status (s.observe window).1) (showAll_twins _ _) ?_
          rintro _ _ _
          split
          · exact .done rfl
          · refine twins_bind (pause_twins settings _ details.status) ?_
            rintro state _ rfl
            exact .done rfl

theorem watch_twins (same : v.grant one = v.grant two) (settings : MonitorSettings)
    (execution : ExecutionArn) (polls more : Nat) (s : Monitor.State) :
    Twins v.calls Eq (Monitor.watch settings one execution polls s)
      (Monitor.watch settings two execution more s) := by
  induction polls generalizing more s with
  -- The two may be given different numbers of polls; the one that runs out is only stopped.
  | zero => exact .stopped _
  | succ polls ih =>
      cases more with
      | zero => exact .outlived _
      | succ more =>
          refine twins_bind (poll_twins same settings execution s) ?_
          rintro result _ rfl
          match result with
          | .error _ => exact .done rfl
          | .ok (.inl _) => exact .done rfl
          | .ok (.inr next) => exact ih more next

end Programs

section Plans

variable {α β : Type} {agree : α → β → Prop}

/-- What is seen of a call is seen of the step it is. -/
theorem steps_call {c d : Call} {a : c.Answer} {b : d.Answer}
    (seen : v.steps.exchange ⟨.call c, a⟩ = v.steps.exchange ⟨.call d, b⟩) :
    v.calls.exchange ⟨c, a⟩ = v.calls.exchange ⟨d, b⟩ := by
  have questions : v.call c = v.call d := Step.call.inj (Exchange.mk.inj seen).1
  have answers : HEq (v.answer c a) (v.answer d b) := View.answers seen
  simp only [View.exchange, Veil.calls]
  congr 1

theorem call_steps {c d : Call} {a : c.Answer} {b : d.Answer}
    (seen : v.calls.exchange ⟨c, a⟩ = v.calls.exchange ⟨d, b⟩) :
    v.steps.exchange ⟨.call c, a⟩ = v.steps.exchange ⟨.call d, b⟩ :=
  congrArg Exchange.step seen

theorem ofProgram_twins {p : Program α} {q : Program β} (twins : Twins v.calls agree p q) :
    Twins v.steps agree (Plan.ofProgram p) (Plan.ofProgram q) := by
  refine twins_expand ?_ twins
  intro c d asked
  exact .ask (congrArg Step.call asked) fun a b seen => .done (steps_call seen)

theorem program_twins {p : Plan α} {q : Plan β} (twins : Twins v.steps agree p q) :
    Twins v.calls agree p.program q.program := by
  refine twins_expand ?_ twins
  -- A call never looks like a record, so two kinds of pairs are left to be spelled out.
  rintro (c | ⟨one, entry⟩) (d | ⟨two, entry'⟩) asked
  · exact .ask (Step.call.inj asked) fun a b seen => .done (call_steps seen)
  · cases asked
  · cases asked
  · obtain ⟨same, rfl⟩ := Step.record.inj asked
    refine twins_mono (record_twins same entry) ?_
    rintro outcome _ rfl
    change (⟨.record (v.grant one) entry, outcome⟩ : Exchange Step Step.Answer) =
      ⟨.record (v.grant two) entry, outcome⟩
    rw [same]

end Plans

end Veil

namespace DeploymentRequest

/-- Requests that differ at most in parameter values, and not in the one that names the
application. -/
structure AlikeInNames (one two : DeploymentRequest) : Prop where
  environmentRef : one.environmentRef = two.environmentRef
  repositories : one.repositories = two.repositories
  actionType : one.actionType = two.actionType
  requester : one.requester = two.requester
  owner : one.owner = two.owner
  keys : one.parameters.keys = two.parameters.keys
  application : one.parameters.get? applicationKey = two.parameters.get? applicationKey

variable {one two : DeploymentRequest}

theorem AlikeInNames.refl (request : DeploymentRequest) : AlikeInNames request request :=
  ⟨rfl, rfl, rfl, rfl, rfl, rfl, rfl⟩

theorem AlikeInNames.validate (alike : AlikeInNames one two) : one.validate = two.validate := by
  simp only [DeploymentRequest.validate, alike.environmentRef, alike.repositories,
    alike.actionType, alike.requester]

theorem AlikeInNames.actionName (alike : AlikeInNames one two) :
    one.actionName = two.actionName := by
  simp only [DeploymentRequest.actionName, actionName.repositoryList, alike.application,
    alike.repositories]

theorem AlikeInNames.summary (alike : AlikeInNames one two) : one.summary = two.summary := by
  simp only [DeploymentRequest.summary, alike.environmentRef, alike.repositories,
    alike.actionType, alike.keys]

end DeploymentRequest

namespace Deployment

open Veil (ofProgram_twins program_twins)

variable {v : Veil} {one two : DeploymentRequest}

/-- The same context but for secrets behind the veil. -/
def SameContext (v : Veil) (c d : DeploymentContext) : Prop :=
  ∃ grant, v.grant c.grant = v.grant grant ∧ d = { c with grant }

/-- The same started deployment but for secrets behind the veil. -/
def SameStarted (v : Veil) (s t : StartedDeployment) : Prop :=
  ∃ context, SameContext v s.context context ∧ t = { s with context }

/-- The veil covers what the two requests hand to an engine. -/
def Covers (v : Veil) (one two : DeploymentRequest) : Prop :=
  ∀ context other : DeploymentContext, context.parameters = other.parameters →
    v.input (inputOf one context).text = v.input (inputOf two other).text

theorem andThen_twins {α β γ δ : Type} {middle : α → β → Prop} {agree : γ → δ → Prop}
    {step : Plan (Except DeploymentError α)} {other : Plan (Except DeploymentError β)}
    {next : α → Plan (Except DeploymentError γ)} {following : β → Plan (Except DeploymentError δ)}
    (first : Twins v.steps (Agree middle) step other)
    (second : ∀ one two, middle one two → Twins v.steps (Agree agree) (next one) (following two)) :
    Twins v.steps (Agree agree) (andThen step next) (andThen other following) := by
  refine twins_bind first ?_
  rintro _ _ (e | same)
  · exact .done (.error e)
  · exact second _ _ same

theorem firstProvider_twins (alike : one.AlikeInNames two) :
    Twins v.steps (Agree Eq) (firstProvider one) (firstProvider two) := by
  unfold firstProvider
  rw [alike.environmentRef]
  cases EntityRef.parse two.environmentRef with
  | error e => exact .done (.error _)
  | ok environment =>
      refine .ask rfl fun listed listed' seen => ?_
      obtain rfl : listed = listed' := eq_of_heq (View.answers seen)
      match listed with
      | .error _ => exact .done (.error _)
      | .ok [] => exact .done (.error _)
      | .ok (_ :: _) => exact .done (.ok rfl)

theorem federate_twins (settings : DeploymentSettings) (alike : one.AlikeInNames two)
    (provider : Provider) :
    Twins v.steps (Agree fun g h => v.grant g = v.grant h) (federate settings one provider)
      (federate settings two provider) := by
  unfold federate
  rw [alike.requester]
  refine twins_bind (ofProgram_twins (Veil.federate_twins ..)) ?_
  intro result result' agreed
  exact .done (agreed.mapError _)

theorem parameter_twins {g h : Grant} (same : v.grant g = v.grant h) (path : String) :
    Twins v.steps (Agree Eq) (parameter g path) (parameter h path) := by
  refine twins_bind (ofProgram_twins (Veil.readParameter_twins same path)) ?_
  rintro result _ rfl
  exact .done ((Agree.refl result).mapError _)

theorem entryOf_alike (settings : DeploymentSettings) (alike : one.AlikeInNames two)
    (provider : Provider) {g h : Grant} (same : v.grant g = v.grant h) :
    entryOf settings one provider g = entryOf settings two provider h := by
  obtain ⟨account, region, role⟩ := Veil.grant_target same
  simp only [entryOf, alike.actionType, alike.actionName, alike.requester, alike.owner,
    alike.summary, account, region, role]

theorem parametersOf_alike (alike : one.AlikeInNames two) (provider : Provider) {g h : Grant}
    (same : v.grant g = v.grant h) (vpcId clusterArn : String) :
    parametersOf one provider g vpcId clusterArn = parametersOf two provider h vpcId clusterArn := by
  obtain ⟨account, region, role⟩ := Veil.grant_target same
  simp only [parametersOf, alike.requester, alike.actionType, account, region, role]

theorem resolve_twins (settings : DeploymentSettings) (alike : one.AlikeInNames two) :
    Twins v.steps (Agree (SameContext v)) (resolve settings one) (resolve settings two) := by
  refine andThen_twins (firstProvider_twins alike) ?_
  rintro provider _ rfl
  refine andThen_twins (federate_twins settings alike provider) ?_
  intro g h same
  refine andThen_twins (parameter_twins same provider.vpcPath) ?_
  rintro vpcId _ rfl
  refine andThen_twins (parameter_twins same provider.clusterPath) ?_
  rintro clusterArn _ rfl
  refine andThen_twins (parameter_twins same settings.stateMachinePath) ?_
  rintro stateMachine _ rfl
  refine .done (.ok ⟨h, same, ?_⟩)
  rw [entryOf_alike settings alike provider same, parametersOf_alike alike provider same]

variable {c d : DeploymentContext} {s t : StartedDeployment}

theorem record_twins {g h : Grant} (same : v.grant g = v.grant h) (entry : AuditEntry) :
    Twins v.steps Eq (Plan.record g entry) (Plan.record h entry) :=
  .ask (congrArg (Step.record · entry) same) fun _ _ seen =>
    .done (eq_of_heq (View.answers seen))

theorem rejectStart_twins (same : SameContext v c d) (inProgress : AuditOutcome)
    (source : EngineError) :
    Twins v.steps (Agree (SameStarted v)) (rejectStart c inProgress source)
      (rejectStart d inProgress source) := by
  obtain ⟨grant, same, rfl⟩ := same
  refine twins_bind (record_twins same _) ?_
  rintro terminal _ rfl
  exact .done (.error _)

theorem startExecution_twins (covered : Covers v one two) (same : SameContext v c d)
    (inProgress : AuditOutcome) :
    Twins v.steps (Agree (SameStarted v)) (startExecution one c inProgress)
      (startExecution two d inProgress) := by
  have context := same
  obtain ⟨grant, same, rfl⟩ := same
  -- The one question of a deployment that shows what the engine is handed.
  have inputs := covered c { c with grant } rfl
  have asked : v.call (.startExecution c.grant c.stateMachine (inputOf one c).text) =
      v.call (.startExecution grant c.stateMachine (inputOf two { c with grant }).text) := by
    rw [Veil.call, Veil.call, same, inputs]
  refine .ask (congrArg Step.call asked) fun answer answer' seen => ?_
  obtain rfl : answer = answer' := eq_of_heq (View.answers seen)
  cases answer with
  | error source => exact rejectStart_twins context inProgress source
  | ok answer => exact .done (.ok ⟨_, context, rfl⟩)

theorem startPlan_twins (settings : DeploymentSettings) (alike : one.AlikeInNames two)
    (covered : Covers v one two) :
    Twins v.steps (Agree (SameStarted v)) (startPlan settings one) (startPlan settings two) := by
  unfold startPlan
  rw [alike.validate]
  cases two.validate with
  | error e => exact .done (.error _)
  | ok _ =>
      refine andThen_twins (resolve_twins settings alike) ?_
      intro c d context
      have found := context
      obtain ⟨grant, same, rfl⟩ := context
      refine twins_bind (record_twins same c.entry) ?_
      rintro inProgress _ rfl
      exact startExecution_twins covered found inProgress

theorem close_twins (same : SameStarted v s t) (message : String)
    (error : AuditReport → DeploymentError) :
    Twins v.steps (Agree Eq) (close s message error) (close t message error) := by
  obtain ⟨_, ⟨grant, same, rfl⟩, rfl⟩ := same
  refine twins_bind (record_twins same _) ?_
  rintro terminal _ rfl
  exact .done (.error _)

theorem conclude_twins (settings : DeploymentSettings) (same : SameStarted v s t)
    (completed : CompletedExecution) :
    Twins v.steps (Agree Eq) (conclude settings s completed) (conclude settings t completed) := by
  have started := same
  obtain ⟨_, ⟨grant, same, rfl⟩, rfl⟩ := same
  unfold conclude
  split
  · exact close_twins started _ _
  · split
    · exact close_twins started _ _
    · refine twins_bind (record_twins same _) ?_
      rintro terminal _ rfl
      exact .done (.ok rfl)

theorem completePlan_twins (settings : DeploymentSettings) (polls more : Nat)
    (same : SameStarted v s t) :
    Twins v.steps (Agree Eq) (completePlan settings polls s) (completePlan settings more t) := by
  have started := same
  obtain ⟨_, ⟨grant, same, rfl⟩, rfl⟩ := same
  refine twins_bind
    (ofProgram_twins (Veil.watch_twins same settings.monitor s.execution polls more {})) ?_
  rintro result _ rfl
  cases result with
  | error source => exact close_twins started _ _
  | ok completed => exact conclude_twins settings started completed

/-- Deployments that ask for the same, but for what the veil covers, are twins. -/
theorem deploy_twins (settings : DeploymentSettings) (polls more : Nat)
    (alike : one.AlikeInNames two) (covered : Covers v one two) :
    Twins v.calls Eq (deploy settings polls one) (deploy settings more two) := by
  have plans : Twins v.steps (Agree Eq) (plan settings polls one) (plan settings more two) :=
    andThen_twins (startPlan_twins settings alike covered) fun _ _ same =>
      completePlan_twins settings polls more same
  exact twins_mono (program_twins plans) fun _ _ => Agree.eq

end Deployment

end Rollout
