import Rollout.Json.Codec
import Rollout.Time.Format

/-!
Audit records. A deployment writes two, `IN PROGRESS` before the execution
starts and `SUCCESS` or `FAILED` after it ended. Each has a sequence value of
its own, whose time closes the record's id.
-/

namespace Rollout

open Time (Instant)

inductive AuditStatus where
  | inProgress
  | success
  | failed
  deriving DecidableEq, Repr

namespace AuditStatus

def all : List AuditStatus := [.inProgress, .success, .failed]

def text : AuditStatus → String
  | .inProgress => "IN PROGRESS"
  | .success => "SUCCESS"
  | .failed => "FAILED"

def ofText? (s : String) : Option AuditStatus := all.find? (·.text == s)

def toJson (s : AuditStatus) : Json := .string s.text

def decode : Decoder AuditStatus := .variant ofText?

instance : Codec AuditStatus := ⟨decode, toJson⟩

end AuditStatus

/-- What is to be recorded. -/
structure AuditEntry where
  actionType : String
  actionName : String
  requester : String
  owner : String
  assumedRole : String
  account : String
  region : String
  platform : String
  provider : String
  application : String
  /-- JSON summary of the request. -/
  request : String
  status : AuditStatus
  message : String
  deriving DecidableEq, Repr

namespace AuditEntry

def withStatus (e : AuditEntry) (status : AuditStatus) (message : String) : AuditEntry :=
  { e with status, message }

def toJson (e : AuditEntry) : Json :=
  .object [
    ("actionType", .string e.actionType),
    ("actionName", .string e.actionName),
    ("requester", .string e.requester),
    ("owner", .string e.owner),
    ("assumedRoleArn", .string e.assumedRole),
    ("targetAccount", .string e.account),
    ("targetRegion", .string e.region),
    ("rolePrefix", .string e.platform),
    ("environmentProviderName", .string e.provider),
    ("appName", .string e.application),
    ("request", .string e.request),
    ("status", e.status.toJson),
    ("message", .string e.message)]

def decode : Decoder AuditEntry := fun depth doc => do
  let [actionType, actionName, requester, owner, role, account, region, platform, provider,
      application, request, status, message] ← Decoder.record
    [["actionType"], ["actionName"], ["requester"], ["owner"], ["assumedRoleArn"],
      ["targetAccount"], ["targetRegion"], ["rolePrefix"], ["environmentProviderName"],
      ["appName"], ["request"], ["status"], ["message"]] depth doc | none
  some {
    actionType := ← actionType.required .string
    actionName := ← actionName.required .string
    requester := ← requester.required .string
    owner := ← owner.required .string
    assumedRole := ← role.required .string
    account := ← account.required .string
    region := ← region.required .string
    platform := ← platform.required .string
    provider := ← provider.required .string
    application := ← application.required .string
    request := ← request.required .string
    status := ← status.required AuditStatus.decode
    message := ← message.required .string }

instance : Codec AuditEntry := ⟨decode, toJson⟩

end AuditEntry

/-- A written record; it never changes. -/
structure AuditRecord where
  id : String
  sequence : Int
  origin : String
  platform : String
  provider : String
  application : String
  actionType : String
  name : String
  initiatedBy : String
  owner : String
  assumedRole : String
  account : String
  region : String
  request : String
  status : AuditStatus
  message : String
  createdAt : String
  deriving DecidableEq, Repr

namespace AuditRecord

def originName : String := "OPA Orchestrator"

/-- The time of a sequence value in microseconds; values beyond the calendar show the epoch. -/
def timestamp (sequence : Int) : String :=
  let instant := Instant.ofMicros sequence
  (if instant.representable then instant else .epoch).rfc3339Micros

def ofEntry (e : AuditEntry) (sequence : Int) : AuditRecord :=
  let createdAt := timestamp sequence
  { id := "#".intercalate [e.account, e.region, e.requester, e.actionType, createdAt]
    sequence
    origin := originName
    platform := e.platform
    provider := e.provider
    application := e.application
    actionType := e.actionType
    name := e.actionName
    initiatedBy := e.requester
    owner := e.owner
    assumedRole := e.assumedRole
    account := e.account
    region := e.region
    request := e.request
    status := e.status
    message := e.message
    createdAt }

def toJson (r : AuditRecord) : Json :=
  .object [
    ("id", .string r.id),
    ("sequence", .int r.sequence),
    ("origin", .string r.origin),
    ("prefix", .string r.platform),
    ("environmentProviderName", .string r.provider),
    ("appName", .string r.application),
    ("actionType", .string r.actionType),
    ("name", .string r.name),
    ("initiatedBy", .string r.initiatedBy),
    ("owner", .string r.owner),
    ("assumedRole", .string r.assumedRole),
    ("targetAccount", .string r.account),
    ("targetRegion", .string r.region),
    ("request", .string r.request),
    ("status", r.status.toJson),
    ("message", .string r.message),
    ("createdAt", .string r.createdAt)]

def decode : Decoder AuditRecord := fun depth doc => do
  let [id, sequence, origin, platform, provider, application, actionType, name, initiatedBy,
      owner, role, account, region, request, status, message, createdAt] ← Decoder.record
    [["id"], ["sequence"], ["origin"], ["prefix"], ["environmentProviderName"], ["appName"],
      ["actionType"], ["name"], ["initiatedBy"], ["owner"], ["assumedRole"], ["targetAccount"],
      ["targetRegion"], ["request"], ["status"], ["message"], ["createdAt"]] depth doc | none
  some {
    id := ← id.required .string
    sequence := ← sequence.required .int64
    origin := ← origin.required .string
    platform := ← platform.required .string
    provider := ← provider.required .string
    application := ← application.required .string
    actionType := ← actionType.required .string
    name := ← name.required .string
    initiatedBy := ← initiatedBy.required .string
    owner := ← owner.required .string
    assumedRole := ← role.required .string
    account := ← account.required .string
    region := ← region.required .string
    request := ← request.required .string
    status := ← status.required AuditStatus.decode
    message := ← message.required .string
    createdAt := ← createdAt.required .string }

instance : Codec AuditRecord := ⟨decode, toJson⟩

end AuditRecord

end Rollout
