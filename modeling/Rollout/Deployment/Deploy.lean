import Rollout.Credential.Federation
import Rollout.Deployment.Plan
import Rollout.Execution.Monitor
import Rollout.Output.Aggregate
import Rollout.Parameters
import Rollout.Pipeline.Input
import Rollout.Request

/-!
One deployment from request to result, against the first provider of the target
environment. Everything up to the parameters can fail without a trace in the
ledger. After the `IN PROGRESS` record every path writes one terminal record,
and how the two writes went travels next to the result.
-/

namespace Rollout

open Time (Instant)

structure DeploymentSettings where
  federation : FederationSettings
  monitor : MonitorSettings
  stateMachinePath : String
  reserved : String
  deriving DecidableEq, Repr

/-- What is known of a deployment before its execution starts. -/
structure DeploymentContext where
  provider : Provider
  grant : Grant
  parameters : DeploymentParameters
  stateMachine : String
  entry : AuditEntry
  deriving DecidableEq, Repr

/-- A deployment whose execution the engine has accepted. -/
structure StartedDeployment where
  context : DeploymentContext
  execution : ExecutionArn
  startDate : Instant
  inProgress : AuditOutcome
  deriving DecidableEq, Repr

namespace Deployment

/-- Goes on with the value, or ends with the error. -/
def andThen {α β : Type} (step : Plan (Except DeploymentError α))
    (next : α → Plan (Except DeploymentError β)) : Plan (Except DeploymentError β) :=
  step.bind fun
    | .ok value => next value
    | .error e => .done (.error e)

def firstProvider (request : DeploymentRequest) : Plan (Except DeploymentError Provider) :=
  match EntityRef.parse request.environmentRef with
  | .error e => .done (.error (.validation e))
  | .ok environment => do
    match ← Plan.call (.providers environment) with
    | .error e => return .error (.ofCatalog e)
    | .ok [] => return .error (.catalog (.noProviders environment.text))
    | .ok (first :: _) => return .ok first

def federate (settings : DeploymentSettings) (request : DeploymentRequest) (provider : Provider) :
    Plan (Except DeploymentError Grant) :=
  (Plan.ofProgram (Federation.federate settings.federation provider.accountId provider.region
    provider.providerName request.requester)).bind fun result =>
      .done (result.mapError .ofFederation)

def parameter (grant : Grant) (path : String) : Plan (Except DeploymentError String) :=
  (Plan.ofProgram (readParameter grant path)).bind fun result =>
    .done (result.mapError .parameter)

def parametersOf (request : DeploymentRequest) (provider : Provider) (grant : Grant)
    (vpcId clusterArn : String) : DeploymentParameters :=
  { region := grant.region.text
    account := grant.account.text
    vpcId
    clusterArn
    environmentName := provider.environmentName
    providerName := provider.providerName
    user := request.requester.name
    assumedRole := grant.role.text
    actionType := request.actionType }

def entryOf (settings : DeploymentSettings) (request : DeploymentRequest) (provider : Provider)
    (grant : Grant) : AuditEntry :=
  { actionType := request.actionType
    actionName := request.actionName
    requester := request.requester.name
    owner := request.owner.getD ""
    assumedRole := grant.role.text
    account := grant.account.text
    region := grant.region.text
    platform := settings.federation.platform
    provider := provider.providerName
    application := request.actionName
    request := request.summary.compact
    status := .inProgress
    message := "" }

def resolveFor (settings : DeploymentSettings) (request : DeploymentRequest)
    (provider : Provider) : Plan (Except DeploymentError DeploymentContext) :=
  andThen (federate settings request provider) fun grant =>
  andThen (parameter grant provider.vpcPath) fun vpcId =>
  andThen (parameter grant provider.clusterPath) fun clusterArn =>
  andThen (parameter grant settings.stateMachinePath) fun stateMachine =>
  .done (.ok {
    provider
    grant
    parameters := parametersOf request provider grant vpcId clusterArn
    stateMachine
    entry := entryOf settings request provider grant })

def resolve (settings : DeploymentSettings) (request : DeploymentRequest) :
    Plan (Except DeploymentError DeploymentContext) :=
  andThen (firstProvider request) (resolveFor settings request)

def inputOf (request : DeploymentRequest) (context : DeploymentContext) : PipelineInput :=
  { repositories := request.repositories
    parameters := context.parameters.mergedWith request.textParameters }

def recordFailure (context : DeploymentContext) (message : String) : Plan AuditOutcome :=
  Plan.record context.grant (context.entry.withStatus .failed message)

/-- Ends with the error of a start that did not come about, after its terminal record. -/
def rejectStart (context : DeploymentContext) (inProgress : AuditOutcome) (source : EngineError) :
    Plan (Except DeploymentError StartedDeployment) := do
  let terminal ← recordFailure context source.message
  return .error (.start context.stateMachine source ⟨some inProgress, some terminal⟩)

def startExecution (request : DeploymentRequest) (context : DeploymentContext)
    (inProgress : AuditOutcome) : Plan (Except DeploymentError StartedDeployment) :=
  match (inputOf request context).encoded with
  | .error reason =>
    rejectStart context inProgress
      (.rejected ("pipeline input could not be encoded: " ++ reason))
  | .ok input => do
    match ← Plan.call (.startExecution context.grant context.stateMachine input) with
    | .ok started =>
      return .ok {
        context
        execution := started.execution
        startDate := started.startDate
        inProgress }
    | .error source => rejectStart context inProgress source

/-- Resolves, records and starts; returns once the engine has accepted the execution. -/
def startPlan (settings : DeploymentSettings) (request : DeploymentRequest) :
    Plan (Except DeploymentError StartedDeployment) :=
  match request.validate with
  | .error e => .done (.error (.validation e))
  | .ok () =>
    andThen (resolve settings request) fun context => do
      let inProgress ← Plan.record context.grant context.entry
      startExecution request context inProgress

/-- Why an execution that ended was no success. -/
def failureMessage (completed : CompletedExecution) (execution : ExecutionArn) : String :=
  "execution " ++ execution.text ++ " finished with status " ++ completed.status.text
    ++ (completed.details.error.map (": " ++ ·)).getD ""
    ++ (completed.details.cause.map fun cause => " (" ++ cause ++ ")").getD ""

def resultOf (started : StartedDeployment) (outputs : Dict String) (terminal : AuditOutcome) :
    DeploymentResult :=
  { account := started.context.parameters.account
    region := started.context.parameters.region
    vpcId := started.context.parameters.vpcId
    clusterArn := some started.context.parameters.clusterArn
    outputs
    execution := started.execution
    startDate := started.startDate
    audit := ⟨some started.inProgress, some terminal⟩ }

/-- Ends with an error after the terminal record of a failure. -/
def close (started : StartedDeployment) (message : String)
    (error : AuditReport → DeploymentError) :
    Plan (Except DeploymentError DeploymentResult) := do
  let terminal ← recordFailure started.context message
  return .error (error ⟨some started.inProgress, some terminal⟩)

def conclude (settings : DeploymentSettings) (started : StartedDeployment)
    (completed : CompletedExecution) : Plan (Except DeploymentError DeploymentResult) :=
  if completed.status != .succeeded then
    close started (failureMessage completed started.execution)
      (.execution started.execution completed.status completed.trace)
  else
    match Output.aggregateText settings.reserved completed.details.output with
    | .error e => close started e.message (.output started.execution e.message)
    | .ok outputs => do
      let terminal ← Plan.record started.context.grant
        (started.context.entry.withStatus .success "")
      return .ok (resultOf started outputs terminal)

/-- Watches a started execution to its end, polling at most `polls` times. -/
def completePlan (settings : DeploymentSettings) (polls : Nat) (started : StartedDeployment) :
    Plan (Except DeploymentError DeploymentResult) := do
  match ← Plan.ofProgram (Monitor.awaitCompletion settings.monitor started.context.grant
      started.execution polls) with
  | .error source =>
    close started ("monitoring " ++ started.execution.text ++ " failed: " ++ source.message)
      (.monitor started.execution source)
  | .ok completed => conclude settings started completed

def plan (settings : DeploymentSettings) (polls : Nat) (request : DeploymentRequest) :
    Plan (Except DeploymentError DeploymentResult) :=
  andThen (startPlan settings request) (completePlan settings polls)

def start (settings : DeploymentSettings) (request : DeploymentRequest) :
    Program (Except DeploymentError StartedDeployment) :=
  (startPlan settings request).program

def complete (settings : DeploymentSettings) (polls : Nat) (started : StartedDeployment) :
    Program (Except DeploymentError DeploymentResult) :=
  (completePlan settings polls started).program

def deploy (settings : DeploymentSettings) (polls : Nat) (request : DeploymentRequest) :
    Program (Except DeploymentError DeploymentResult) :=
  (plan settings polls request).program

end Deployment

end Rollout
