import Rollout.Deployment.Deploy
import Rollout.Proofs.Recording
import Rollout.Proofs.Watching

/-!
The ways a deployment can go. Nothing is recorded while it is resolved; then an
`IN PROGRESS` record opens it, and every way to its end closes it with a second.
-/

namespace Rollout

open Dialogue

/-- What is asked before anything is recorded, parameters only at the given paths. -/
def Call.Prepares (paths : List String) : Call → Prop
  | .providers _ | .findRole _ _ | .assumeRole _ | .clock => True
  | .parameter _ path => path ∈ paths
  | _ => False

def Call.asksEngine : Call → Bool
  | .startExecution _ _ _ | .describe _ _ | .history _ _ _ => true
  | _ => false

namespace Step

def Prepares (paths : List String) : Step → Prop
  | .call c => c.Prepares paths
  | .record _ _ => False

def asksEngine : Step → Bool
  | .call c => c.asksEngine
  | .record _ _ => false

def isRecord : Step → Bool
  | .call _ => false
  | .record _ _ => true

theorem prepares_quiet {paths : List String} {step : Step} (prepares : step.Prepares paths) :
    step.isRecord = false ∧ step.asksEngine = false := by
  rcases step with (_ | _ | _ | _ | _ | _ | _ | _ | _ | _ | _ | _ | _) | _ <;>
    first | exact ⟨rfl, rfl⟩ | cases prepares

end Step

namespace Federation

variable {paths : List String}

theorem firstMapped_holds (account : AccountId) (requester : String) (groups : List String) :
    (firstMapped account requester groups).Holds (·.Prepares paths) fun _ => True := by
  induction groups with
  | nil => exact .done trivial
  | cons group rest ih =>
      refine .ask trivial fun answer => ?_
      match answer with
      | .error _ => exact .done trivial
      | .ok (some _) => exact .done trivial
      | .ok none => exact ih

theorem resolveRole_holds (settings : FederationSettings) (account : AccountId)
    (provider : String) (requester : Requester) :
    (resolveRole settings account provider requester).Holds (·.Prepares paths) fun _ => True := by
  unfold resolveRole
  cases settings.strategy with
  | convention => exact .done trivial
  | groupMapping => exact firstMapped_holds account requester.name requester.mappableGroups

theorem federate_holds (settings : FederationSettings) (accountText regionText provider : String)
    (requester : Requester) :
    (federate settings accountText regionText provider requester).Holds (·.Prepares paths)
      fun _ => True := by
  unfold federate
  cases AccountId.parse accountText with
  | error e => exact .done trivial
  | ok account =>
      cases Region.parse regionText with
      | error e => exact .done trivial
      | ok region =>
          refine holds_bind (resolveRole_holds settings account provider requester) ?_
          intro found _
          cases found with
          | error e => exact .done trivial
          | ok role =>
              refine .ask trivial fun answer => ?_
              cases answer with
              | error e => exact .done trivial
              | ok issued => exact .ask trivial fun _ => .done trivial

end Federation

namespace Deployment

/-- An error without an audit report, or a value that has the property. -/
def Early {α : Type} (good : α → Prop) : Except DeploymentError α → Prop
  | .ok value => good value
  | .error e => e.audit? = none

/-- Where the parameters of a deployment are kept. -/
def readPaths (settings : DeploymentSettings) (provider : Provider) : List String :=
  [provider.vpcPath, provider.clusterPath, settings.stateMachinePath]

section Preparing

variable {paths : List String}

theorem andThen_holds {α β : Type} {asked : Step → Prop} {middle : α → Prop} {good : β → Prop}
    {step : Plan (Except DeploymentError α)} {next : α → Plan (Except DeploymentError β)}
    (first : step.Holds asked (Early middle))
    (second : ∀ value, middle value → (next value).Holds asked (Early good)) :
    (andThen step next).Holds asked (Early good) := by
  refine holds_bind first ?_
  intro result early
  cases result with
  | error e => exact .done early
  | ok value => exact second value early

theorem ofCatalog_unaudited (e : CatalogError) : (DeploymentError.ofCatalog e).audit? = none := by
  cases e <;> rfl

theorem ofFederation_unaudited (e : FederationError) :
    (DeploymentError.ofFederation e).audit? = none := by
  cases e <;> rfl

theorem federate_holds (settings : DeploymentSettings) (request : DeploymentRequest)
    (provider : Provider) :
    (federate settings request provider).Holds (·.Prepares paths) (Early fun _ => True) := by
  have issued : (Federation.federate settings.federation provider.accountId provider.region
      provider.providerName request.requester).Holds (·.Prepares paths) fun _ => True :=
    Federation.federate_holds ..
  refine holds_bind (Plan.holds_ofProgram issued fun _ asked => asked) ?_
  intro result _
  cases result with
  | error e => exact .done (ofFederation_unaudited e)
  | ok grant => exact .done trivial

theorem parameter_holds (grant : Grant) {path : String} (member : path ∈ paths) :
    (parameter grant path).Holds (·.Prepares paths) (Early fun _ => True) := by
  have read : (readParameter grant path).Holds (·.Prepares paths) fun _ => True := by
    refine .ask member fun answer => ?_
    match answer with
    | .error _ => exact .done trivial
    | .ok none => exact .done trivial
    | .ok (some _) => exact .done trivial
  refine holds_bind (Plan.holds_ofProgram read fun _ asked => asked) ?_
  intro result _
  cases result with
  | error e => exact .done rfl
  | ok value => exact .done trivial

theorem resolveFor_holds (settings : DeploymentSettings) (request : DeploymentRequest)
    (provider : Provider) :
    (resolveFor settings request provider).Holds (·.Prepares (readPaths settings provider))
      (Early fun context => context.entry = entryOf settings request provider context.grant) := by
  refine andThen_holds (federate_holds settings request provider) fun grant _ => ?_
  refine andThen_holds (parameter_holds grant (by simp [readPaths])) fun vpcId _ => ?_
  refine andThen_holds (parameter_holds grant (by simp [readPaths])) fun clusterArn _ => ?_
  refine andThen_holds (parameter_holds grant (by simp [readPaths])) fun stateMachine _ => ?_
  exact .done rfl

end Preparing

section Ways

variable (settings : DeploymentSettings)

/-- The ways to what is known before the start, or to the error in its place. -/
inductive Resolved (request : DeploymentRequest) :
    Journal → Except DeploymentError DeploymentContext → Prop
  | malformed {e : ValidationError} (refused : EntityRef.parse request.environmentRef = .error e) :
      Resolved request [] (.error (.validation e))
  | unlisted {environment : EntityRef} {e : CatalogError} :
      Resolved request [⟨.call (.providers environment), .error e⟩] (.error (.ofCatalog e))
  | empty {environment : EntityRef} :
      Resolved request [⟨.call (.providers environment), .ok []⟩]
        (.error (.catalog (.noProviders environment.text)))
  | listed {environment : EntityRef} {provider : Provider} {others : List Provider}
      {after : Journal} {result : Except DeploymentError DeploymentContext}
      (prepares : ∀ x ∈ after, x.question.Prepares (readPaths settings provider))
      (early : Early (fun context =>
        context.entry = entryOf settings request provider context.grant) result) :
      Resolved request (⟨.call (.providers environment), .ok (provider :: others)⟩ :: after) result

/-- The ways to a started execution, or to the error in its place. -/
inductive Started (request : DeploymentRequest) :
    Journal → Except DeploymentError StartedDeployment → Prop
  | invalid {e : ValidationError} (refused : request.validate = .error e) :
      Started request [] (.error (.validation e))
  | unresolved {before : Journal} {e : DeploymentError}
      (resolved : Resolved settings request before (.error e)) :
      Started request before (.error e)
  | unencoded {before : Journal} {context : DeploymentContext} {inProgress terminal : AuditOutcome}
      {reason : String} {source : EngineError}
      (resolved : Resolved settings request before (.ok context))
      (encoded : (inputOf request context).encoded = .error reason)
      (refused : source = .rejected ("pipeline input could not be encoded: " ++ reason)) :
      Started request
        (before ++ [⟨.record context.grant context.entry, inProgress⟩,
          ⟨.record context.grant (context.entry.withStatus .failed source.message), terminal⟩])
        (.error (.start context.stateMachine source ⟨some inProgress, some terminal⟩))
  | rejected {before : Journal} {context : DeploymentContext} {inProgress terminal : AuditOutcome}
      {input : String} {source : EngineError}
      (resolved : Resolved settings request before (.ok context))
      (encoded : (inputOf request context).encoded = .ok input) :
      Started request
        (before ++ [⟨.record context.grant context.entry, inProgress⟩,
          ⟨.call (.startExecution context.grant context.stateMachine input), .error source⟩,
          ⟨.record context.grant (context.entry.withStatus .failed source.message), terminal⟩])
        (.error (.start context.stateMachine source ⟨some inProgress, some terminal⟩))
  | accepted {before : Journal} {context : DeploymentContext} {inProgress : AuditOutcome}
      {input : String} {answer : StartedExecution}
      (resolved : Resolved settings request before (.ok context))
      (encoded : (inputOf request context).encoded = .ok input) :
      Started request
        (before ++ [⟨.record context.grant context.entry, inProgress⟩,
          ⟨.call (.startExecution context.grant context.stateMachine input), .ok answer⟩])
        (.ok ⟨context, answer.execution, answer.startDate, inProgress⟩)

/-- The calls of a watch of the execution, as steps, and how it ended. -/
def WatchedIn (started : StartedDeployment) (polls : Nat) (journal : Journal)
    (outcome : Option (Except EngineError CompletedExecution)) : Prop :=
  ∃ calls, journal = calls.map Exchange.step ∧
    Monitor.Watched settings.monitor started.context.grant started.execution polls {} calls outcome

/-- The ways from a started execution to the end of its deployment. -/
inductive Completed (polls : Nat) (started : StartedDeployment) :
    Journal → Option (Except DeploymentError DeploymentResult) → Prop
  | unfinished {watched : Journal} (watch : WatchedIn settings started polls watched none) :
      Completed polls started watched none
  | unwatched {watched : Journal} {source : EngineError} {terminal : AuditOutcome}
      (watch : WatchedIn settings started polls watched (some (.error source))) :
      Completed polls started
        (watched ++ [⟨.record started.context.grant (started.context.entry.withStatus .failed
          ("monitoring " ++ started.execution.text ++ " failed: " ++ source.message)), terminal⟩])
        (some (.error (.monitor started.execution source
          ⟨some started.inProgress, some terminal⟩)))
  | failed {watched : Journal} {completed : CompletedExecution} {terminal : AuditOutcome}
      (watch : WatchedIn settings started polls watched (some (.ok completed)))
      (status : completed.status ≠ .succeeded) :
      Completed polls started
        (watched ++ [⟨.record started.context.grant (started.context.entry.withStatus .failed
          (failureMessage completed started.execution)), terminal⟩])
        (some (.error (.execution started.execution completed.status completed.trace
          ⟨some started.inProgress, some terminal⟩)))
  | unreadable {watched : Journal} {completed : CompletedExecution} {terminal : AuditOutcome}
      {e : OutputError}
      (watch : WatchedIn settings started polls watched (some (.ok completed)))
      (status : completed.status = .succeeded)
      (output : Output.aggregateText settings.reserved completed.details.output = .error e) :
      Completed polls started
        (watched ++ [⟨.record started.context.grant (started.context.entry.withStatus .failed
          e.message), terminal⟩])
        (some (.error (.output started.execution e.message
          ⟨some started.inProgress, some terminal⟩)))
  | succeeded {watched : Journal} {completed : CompletedExecution} {terminal : AuditOutcome}
      {outputs : Dict String}
      (watch : WatchedIn settings started polls watched (some (.ok completed)))
      (status : completed.status = .succeeded)
      (output : Output.aggregateText settings.reserved completed.details.output = .ok outputs) :
      Completed polls started
        (watched ++ [⟨.record started.context.grant
          (started.context.entry.withStatus .success ""), terminal⟩])
        (some (.ok (resultOf started outputs terminal)))

end Ways

variable {settings : DeploymentSettings} {request : DeploymentRequest}

theorem andThen_ran {α β : Type} {step : Plan (Except DeploymentError α)}
    {next : α → Plan (Except DeploymentError β)} {journal : Journal}
    {outcome : Option (Except DeploymentError β)} (ran : (andThen step next).Ran journal outcome) :
    (step.Ran journal none ∧ outcome = none) ∨
    (∃ e, step.Ran journal (some (.error e)) ∧ outcome = some (.error e)) ∨
    ∃ first second value, journal = first ++ second ∧ step.Ran first (some (.ok value)) ∧
      (next value).Ran second outcome := by
  rcases ran_bind.mp ran with stopped | ⟨first, second, result, rfl, one, following⟩
  · exact Or.inl stopped
  · cases result with
    | error e =>
        obtain ⟨rfl, rfl⟩ := ran_done.mp following
        rw [List.append_nil]
        exact Or.inr (Or.inl ⟨e, one, rfl⟩)
    | ok value => exact Or.inr (Or.inr ⟨first, second, value, rfl, one, following⟩)

/-- An error of the catalog ends the resolving, a provider is the one it goes on with. -/
theorem firstProvider_ran (settings : DeploymentSettings) {journal : Journal}
    {outcome : Option (Except DeploymentError Provider)}
    (ran : (firstProvider request).Ran journal outcome) :
    ∃ result, outcome = some result ∧ match result with
      | .error e => Resolved settings request journal (.error e)
      | .ok provider => ∃ environment others,
          journal = [⟨.call (.providers environment), .ok (provider :: others)⟩] := by
  unfold firstProvider at ran
  cases parsed : EntityRef.parse request.environmentRef with
  | error e =>
      rw [parsed] at ran
      obtain ⟨rfl, rfl⟩ := ran_done.mp ran
      exact ⟨_, rfl, .malformed parsed⟩
  | ok environment =>
      rw [parsed] at ran
      obtain ⟨answer, _, rfl, following⟩ := ran_ask.mp ran
      match answer with
      | .error e =>
          obtain ⟨rfl, rfl⟩ := ran_done.mp following
          exact ⟨_, rfl, .unlisted⟩
      | .ok [] =>
          obtain ⟨rfl, rfl⟩ := ran_done.mp following
          exact ⟨_, rfl, .empty⟩
      | .ok (provider :: others) =>
          obtain ⟨rfl, rfl⟩ := ran_done.mp following
          exact ⟨_, rfl, environment, others, rfl⟩

theorem resolve_ran {journal : Journal}
    {outcome : Option (Except DeploymentError DeploymentContext)}
    (ran : (resolve settings request).Ran journal outcome) :
    ∃ result, outcome = some result ∧ Resolved settings request journal result := by
  rcases andThen_ran ran with ⟨stopped, rfl⟩ | ⟨e, failed, rfl⟩ |
    ⟨first, second, provider, rfl, one, following⟩
  · obtain ⟨_, same, _⟩ := firstProvider_ran settings stopped
    cases same
  · obtain ⟨_, same, listed⟩ := firstProvider_ran settings failed
    cases same
    exact ⟨_, rfl, listed⟩
  · obtain ⟨_, same, listed⟩ := firstProvider_ran settings one
    cases same
    obtain ⟨environment, others, rfl⟩ := listed
    obtain ⟨prepares, result, rfl, early⟩ :=
      holds_ran (resolveFor_holds settings request provider) following
    exact ⟨result, rfl, .listed prepares early⟩

theorem rejectStart_ran {context : DeploymentContext} {inProgress : AuditOutcome}
    {source : EngineError} {journal : Journal}
    {outcome : Option (Except DeploymentError StartedDeployment)}
    (ran : (rejectStart context inProgress source).Ran journal outcome) :
    ∃ terminal, journal =
      [⟨.record context.grant (context.entry.withStatus .failed source.message), terminal⟩] ∧
      outcome = some (.error
        (.start context.stateMachine source ⟨some inProgress, some terminal⟩)) := by
  obtain ⟨terminal, _, rfl, ended⟩ := ran_ask.mp ran
  obtain ⟨rfl, rfl⟩ := ran_done.mp ended
  exact ⟨terminal, rfl, rfl⟩

theorem startPlan_ran {journal : Journal}
    {outcome : Option (Except DeploymentError StartedDeployment)}
    (ran : (startPlan settings request).Ran journal outcome) :
    ∃ result, outcome = some result ∧ Started settings request journal result := by
  unfold startPlan at ran
  cases valid : request.validate with
  | error e =>
      rw [valid] at ran
      obtain ⟨rfl, rfl⟩ := ran_done.mp ran
      exact ⟨_, rfl, .invalid valid⟩
  | ok _ =>
      rw [valid] at ran
      rcases andThen_ran ran with ⟨stopped, _⟩ | ⟨e, failed, rfl⟩ |
        ⟨before, _, context, rfl, resolving, recorded⟩
      · obtain ⟨_, absurdity, _⟩ := resolve_ran stopped
        cases absurdity
      · obtain ⟨_, same, resolved⟩ := resolve_ran failed
        cases same
        exact ⟨_, rfl, .unresolved resolved⟩
      · obtain ⟨_, same, resolved⟩ := resolve_ran resolving
        cases same
        obtain ⟨inProgress, _, rfl, following⟩ := ran_ask.mp recorded
        simp only [startExecution] at following
        cases encoded : (inputOf request context).encoded with
        | error reason =>
            rw [encoded] at following
            obtain ⟨terminal, rfl, rfl⟩ := rejectStart_ran following
            exact ⟨_, rfl, .unencoded resolved encoded rfl⟩
        | ok input =>
            rw [encoded] at following
            obtain ⟨answer, _, rfl, ended⟩ := ran_ask.mp following
            cases answer with
            | error source =>
                obtain ⟨terminal, rfl, rfl⟩ := rejectStart_ran ended
                exact ⟨_, rfl, .rejected resolved encoded⟩
            | ok answer =>
                obtain ⟨rfl, rfl⟩ := ran_done.mp ended
                exact ⟨_, rfl, .accepted resolved encoded⟩

theorem close_ran {started : StartedDeployment} {message : String}
    {error : AuditReport → DeploymentError} {journal : Journal}
    {outcome : Option (Except DeploymentError DeploymentResult)}
    (ran : (close started message error).Ran journal outcome) :
    ∃ terminal, journal = [⟨.record started.context.grant
        (started.context.entry.withStatus .failed message), terminal⟩] ∧
      outcome = some (.error (error ⟨some started.inProgress, some terminal⟩)) := by
  obtain ⟨terminal, _, rfl, ended⟩ := ran_ask.mp ran
  obtain ⟨rfl, rfl⟩ := ran_done.mp ended
  exact ⟨terminal, rfl, rfl⟩

theorem completePlan_ran {polls : Nat} {started : StartedDeployment} {journal : Journal}
    {outcome : Option (Except DeploymentError DeploymentResult)}
    (ran : (completePlan settings polls started).Ran journal outcome) :
    Completed settings polls started journal outcome := by
  rcases ran_bind.mp ran with ⟨stopped, rfl⟩ | ⟨watched, _, result, rfl, one, following⟩
  · obtain ⟨calls, watching, rfl⟩ := Plan.ran_ofProgram.mp stopped
    exact .unfinished ⟨calls, rfl, Monitor.watch_ran watching⟩
  -- What follows the watch depends on its result alone, and every branch ends with one record.
  · obtain ⟨calls, watching, rfl⟩ := Plan.ran_ofProgram.mp one
    have watch := Monitor.watch_ran watching
    cases result with
    | error source =>
        obtain ⟨terminal, rfl, rfl⟩ := close_ran following
        exact .unwatched ⟨calls, rfl, watch⟩
    | ok completed =>
        simp only [conclude] at following
        by_cases status : completed.status = .succeeded
        · simp only [status, bne_self_eq_false, Bool.false_eq_true, if_false] at following
          cases output : Output.aggregateText settings.reserved completed.details.output with
          | error e =>
              rw [output] at following
              obtain ⟨terminal, rfl, rfl⟩ := close_ran following
              exact .unreadable ⟨calls, rfl, watch⟩ status output
          | ok outputs =>
              rw [output] at following
              obtain ⟨terminal, _, rfl, ended⟩ := ran_ask.mp following
              obtain ⟨rfl, rfl⟩ := ran_done.mp ended
              exact .succeeded ⟨calls, rfl, watch⟩ status output
        · simp only [bne_iff_ne, ne_eq, status, not_false_eq_true, if_true] at following
          obtain ⟨terminal, rfl, rfl⟩ := close_ran following
          exact .failed ⟨calls, rfl, watch⟩ status

/-- A deployment that does not get to a started execution ends there; any other is watched. -/
theorem plan_ran {polls : Nat} {journal : Journal}
    {outcome : Option (Except DeploymentError DeploymentResult)}
    (ran : (plan settings polls request).Ran journal outcome) :
    (∃ e, outcome = some (.error e) ∧ Started settings request journal (.error e)) ∨
    ∃ first second started, journal = first ++ second ∧
      Started settings request first (.ok started) ∧
      Completed settings polls started second outcome := by
  rcases andThen_ran ran with ⟨stopped, _⟩ | ⟨e, failed, rfl⟩ |
    ⟨first, second, started, rfl, one, following⟩
  · obtain ⟨_, absurdity, _⟩ := startPlan_ran stopped
    cases absurdity
  · obtain ⟨_, same, way⟩ := startPlan_ran failed
    cases same
    exact Or.inl ⟨e, rfl, way⟩
  · obtain ⟨_, same, way⟩ := startPlan_ran one
    cases same
    exact Or.inr ⟨first, second, started, rfl, way, completePlan_ran following⟩

end Deployment

end Rollout
