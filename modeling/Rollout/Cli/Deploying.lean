import Rollout.Cli.Command
import Rollout.Cli.Parameter
import Rollout.Cli.Service

/-!
The commands that deploy: one deployment from flags or from a file, and the
service that takes requests over HTTP.
-/

namespace Rollout.Cli

def ParameterFault.toError (fault : ParameterFault) : CommandError := ⟨fault.message, []⟩

namespace DeployOptions

/-- The request the flags describe; a parameter given again replaces the one before. -/
def toRequest (o : DeployOptions) : Except CommandError DeploymentRequest := do
  let parameters ← (o.parameters.mapM parseParameter).mapError ParameterFault.toError
  return {
    environmentRef := o.environment.getD ""
    repositories := o.repositories
    parameters := Dict.ofList parameters
    actionType := o.actionType
    requester := ⟨o.user, o.groups⟩
    owner := o.owner }

variable {m : Type → Type} [Monad m]

def readRequest (host : Host m) (path : String) : m (Except CommandError DeploymentRequest) := do
  match ← host.readFile path with
  | .error reason =>
    return .error ⟨"Failed to read request file " ++ Text.quotedPath path, [reason]⟩
  | .ok text =>
    match DeploymentRequest.decode.readText text with
    | some request => return .ok request
    | none =>
      return .error ⟨"Invalid deployment request in " ++ Text.quotedPath path, ["not a request"]⟩

def request (host : Host m) (o : DeployOptions) : m (Except CommandError DeploymentRequest) :=
  match o.requestFile with
  | some path => readRequest host path
  | none => return o.toRequest

end DeployOptions

def auditLines (report : AuditReport) : List String :=
  report.failures.map fun failure =>
    "⚠ Audit write (" ++ failure.write ++ ") failed: " ++ failure.message

def outputLines (outputs : Dict String) : List String :=
  if outputs.isEmpty then []
  else ["", "Outputs:"] ++ outputs.entries.map fun (key, value) => "  " ++ key ++ ": " ++ value

def resultLines (r : DeploymentResult) : List String :=
  ["✓ Deployment succeeded",
    "  Account: " ++ r.account,
    "  Region: " ++ r.region,
    "  VPC: " ++ r.vpcId]
    ++ (r.clusterArn.map ("  Cluster: " ++ ·)).toList
    ++ ["  Execution: " ++ r.execution.text, "  Started: " ++ r.startDate.rfc3339Offset]
    ++ outputLines r.outputs ++ auditLines r.audit

def traceLine (event : HistoryEvent) : String :=
  "  " ++ toString event.id ++ " " ++ event.type
    ++ (event.detail.map fun detail => " (" ++ detail ++ ")").getD ""

def traceLines : DeploymentError → List String
  | .execution _ _ trace _ => "Trace:" :: trace.map traceLine
  | _ => []

def errorLines (e : DeploymentError) : List String :=
  ("✗ " ++ e.message) :: (e.execution?.map fun arn => "  Execution: " ++ arn.text).toList
    ++ traceLines e ++ (e.audit?.map auditLines).getD []

def traceJson? : DeploymentError → Option Json
  | .execution _ _ trace _ => some (.array (trace.map HistoryEvent.toJson))
  | _ => none

def errorJson (e : DeploymentError) : Json :=
  .object ([("error", .string e.message), ("kind", .string e.kind)]
    ++ Json.optional "executionArn" (e.execution?.map ExecutionArn.toJson)
    ++ Json.optional "trace" (traceJson? e)
    ++ Json.optional "audit" (e.audit?.map AuditReport.toJson))

def resultText (format : OutputFormat) (r : DeploymentResult) : List String :=
  match format with
  | .json => [r.toJson.pretty]
  | .text => resultLines r

def errorText (format : OutputFormat) (e : DeploymentError) : List String :=
  match format with
  | .json => [(errorJson e).pretty]
  | .text => errorLines e

def deploymentFailed (causes : List String) : CommandError := ⟨"Deployment failed", causes⟩

variable {m : Type → Type} [Monad m]

def complainLines (host : Host m) (lines : List String) : m Unit :=
  host.complain (String.join (lines.map (· ++ "\n")))

def conclude (host : Host m) (format : OutputFormat) :
    Option (Except DeploymentError DeploymentResult) → m (Except CommandError Unit)
  | some (.ok result) => do
    printLines host (resultText format result)
    return .ok ()
  | some (.error e) => do
    complainLines host (errorText format e)
    return .error (deploymentFailed (e.message :: e.causes))
  | none => return .error (deploymentFailed ["the execution did not end in time"])

def deploy (host : Host m) (config : Option String) (o : DeployOptions) :
    m (Except CommandError Unit) := do
  match ← loadChecked host config with
  | .error e => return .error e
  | .ok manifest =>
    match ← o.request host with
    | .error e => return .error e
    | .ok request =>
      match ← Service.build host manifest o.isLocal o.localOutputs with
      | .error e => return .error e
      | .ok service => conclude host o.format (← service.deploy host request)

def addressOf (o : ServeOptions) (api : ApiConfig) : String :=
  o.host.getD api.bindAddress ++ ":" ++ toString (o.port.getD api.port)

def serve (host : Host m) (config : Option String) (o : ServeOptions) :
    m (Except CommandError Unit) := do
  match ← loadChecked host config with
  | .error e => return .error e
  | .ok manifest =>
    match ← Service.build host manifest o.isLocal o.localOutputs with
    | .error e => return .error e
    | .ok _ =>
      let address := addressOf o manifest.spec.api
      match ← host.listen address with
      | .error reason => return .error ⟨"Failed to bind " ++ address, [reason]⟩
      | .ok () =>
        host.printLine ("✓ Listening on http://" ++ address)
        return .ok ()

end Rollout.Cli
