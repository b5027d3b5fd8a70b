import Rollout.Audit.Report
import Rollout.Credential.Grant
import Rollout.Execution.Basic
import Rollout.Json.Codec

/-!
How a deployment ends: with the flattened outputs, or with an error that says
how far it got. Errors after the `IN PROGRESS` audit write carry the audit
report, errors after the start the execution as well.
-/

namespace Rollout

open Time (Instant)

inductive ParameterError where
  | notFound (path : String)
  | transport (path : String) (reason : String)
  deriving DecidableEq, Repr

def ParameterError.message : ParameterError → String
  | .notFound path => "parameter '" ++ path ++ "' not found or empty"
  | .transport path reason => "parameter store request for '" ++ path ++ "' failed: " ++ reason

instance : Failure ParameterError where
  message := ParameterError.message
  kind
    | .notFound _ => "NotFound"
    | .transport _ _ => "Transport"

/-- The ledger refused a record. -/
structure LedgerError where
  table : String
  reason : String
  deriving DecidableEq, Repr

def LedgerError.message (e : LedgerError) : String :=
  "audit table '" ++ e.table ++ "' rejected the write: " ++ e.reason

instance : Failure LedgerError := ⟨fun _ => "Write", LedgerError.message⟩

inductive CatalogError where
  | environmentNotFound (environment : String)
  | noProviders (environment : String)
  | transport (reason : String)
  | validation (error : ValidationError)
  deriving DecidableEq, Repr

def CatalogError.message : CatalogError → String
  | .environmentNotFound environment =>
    "environment entity '" ++ environment ++ "' could not be located in the catalog"
  | .noProviders environment =>
    "environment '" ++ environment
      ++ "' has no environment provider with complete deployment metadata"
  | .transport reason => "catalog request failed: " ++ reason
  | .validation error => error.message

instance : Failure CatalogError where
  message := CatalogError.message
  kind
    | .environmentNotFound _ => "EnvironmentNotFound"
    | .noProviders _ => "NoProviders"
    | .transport _ => "Transport"
    | .validation error => Failure.kind error

inductive FederationError where
  | validation (error : ValidationError)
  | credential (error : CredentialError)
  deriving DecidableEq, Repr

def FederationError.message : FederationError → String
  | .validation error => error.message
  | .credential error => error.message

instance : Failure FederationError where
  message := FederationError.message
  kind
    | .validation error => Failure.kind error
    | .credential error => Failure.kind error

inductive DeploymentError where
  | validation (error : ValidationError)
  | federation (error : CredentialError)
  | parameter (error : ParameterError)
  | catalog (error : CatalogError)
  | start (stateMachine : String) (source : EngineError) (audit : AuditReport)
  | execution (arn : ExecutionArn) (status : ExecutionStatus) (trace : List HistoryEvent)
      (audit : AuditReport)
  | monitor (arn : ExecutionArn) (source : EngineError) (audit : AuditReport)
  | output (arn : ExecutionArn) (reason : String) (audit : AuditReport)
  deriving DecidableEq, Repr

namespace DeploymentError

def ofFederation : FederationError → DeploymentError
  | .validation e => .validation e
  | .credential e => .federation e

def ofCatalog : CatalogError → DeploymentError
  | .validation e => .validation e
  | e => .catalog e

def message : DeploymentError → String
  | .validation e => e.message
  | .federation e => "credential federation failed: " ++ e.message
  | .parameter e => e.message
  | .catalog e => e.message
  | .start stateMachine source _ =>
    "workflow start failed for state machine " ++ stateMachine ++ ": " ++ source.message
  | .execution arn status _ _ =>
    "deployment finished with status " ++ status.text ++ "; see the execution for details: "
      ++ arn.text
  | .monitor arn source _ =>
    "monitoring execution " ++ arn.text ++ " failed: " ++ source.message
  | .output arn reason _ => "execution " ++ arn.text ++ " produced unreadable output: " ++ reason

/-- A short name of the kind of failure. -/
def kind : DeploymentError → String
  | .validation _ => "ValidationError"
  | .federation _ => "CredentialFederationError"
  | .parameter (.notFound _) => "ParameterNotFoundError"
  | .parameter (.transport _ _) => "ParameterTransportError"
  | .catalog _ => "CatalogError"
  | .start .. => "WorkflowStartError"
  | .execution .. => "WorkflowExecutionFailed"
  | .monitor .. => "MonitorError"
  | .output .. => "OutputParseError"

instance : Failure DeploymentError := ⟨kind, message⟩

/-- The execution of a failure seen after the start. -/
def execution? : DeploymentError → Option ExecutionArn
  | .execution arn _ _ _ => some arn
  | .monitor arn _ _ => some arn
  | .output arn _ _ => some arn
  | _ => none

def audit? : DeploymentError → Option AuditReport
  | .start _ _ audit => some audit
  | .execution _ _ _ audit => some audit
  | .monitor _ _ audit => some audit
  | .output _ _ audit => some audit
  | _ => none

/-- The causes behind the message, outermost first. -/
def causes : DeploymentError → List String
  | .start _ source _ => [source.message]
  | .monitor _ source _ => [source.message]
  | _ => []

end DeploymentError

structure DeploymentResult where
  account : String
  region : String
  vpcId : String
  clusterArn : Option String
  outputs : Dict String
  execution : ExecutionArn
  startDate : Instant
  audit : AuditReport
  deriving DecidableEq, Repr

namespace DeploymentResult

def toJson (r : DeploymentResult) : Json :=
  .object ([
    ("account", .string r.account),
    ("region", .string r.region),
    ("vpcId", .string r.vpcId)]
    ++ Json.optional "clusterArn" (r.clusterArn.map .string)
    ++ [
    ("cfnOutputs", .object (r.outputs.map .string).entries),
    ("executionArn", r.execution.toJson),
    ("startDate", .instant r.startDate),
    ("audit", r.audit.toJson)])

def decode : Decoder DeploymentResult := fun depth doc => do
  let [account, region, vpc, cluster, outputs, execution, start, audit] ← Decoder.record
    [["account"], ["region"], ["vpcId"], ["clusterArn"], ["cfnOutputs"], ["executionArn"],
      ["startDate"], ["audit"]] depth doc | none
  some {
    account := ← account.required .string
    region := ← region.required .string
    vpcId := ← vpc.required .string
    clusterArn := ← cluster.nullable .string
    outputs := ← outputs.required (.dict .string)
    execution := ← execution.required ExecutionArn.decode
    startDate := ← start.required .instant
    audit := ← audit.required AuditReport.decode }

instance : Codec DeploymentResult := ⟨decode, toJson⟩

end DeploymentResult

end Rollout
