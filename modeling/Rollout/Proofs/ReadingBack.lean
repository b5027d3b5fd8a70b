import Rollout.Deployment.Deploy
import Rollout.Local.Engine
import Rollout.Pipeline.Definition
import Rollout.Proofs.RecordForms

/-!
Every type with a printed form against its own reader. An optional value is left
out when it is absent and read as absent again. The pipeline input is one of the
types, so the local engine starts from what the deployment has asked for.
-/

namespace Rollout

open Decoder (Returns returns_record returns_written returns_string returns_instant returns_list
  returns_dict returns_variant)
open Json (Plain)

namespace Codec

variable {α : Type} [Codec α]

/-- The printed text of the value is read as the value. -/
def ReadBack (value : α) : Prop :=
  (decode : Decoder α).readText (encode value).compact = some value

theorem readBack_of_returns {depth : Nat} {value : α} (returns : Returns decode depth (encode value) value)
    (within : depth ≤ Doc.deepest) : ReadBack value :=
  returns.readText within

end Codec

section Parts

variable (depth : Nat)

theorem returns_texts (texts : List String) :
    Returns (.list .string) (depth + 1) (.array (texts.map .string)) texts :=
  returns_list fun text _ => returns_string text

theorem returns_textDict (texts : Dict String) :
    Returns (.dict .string) (depth + 1) (.object (texts.map .string).entries) texts :=
  returns_dict fun field _ => returns_string field.2

theorem ExecutionArn.returns (arn : ExecutionArn) : Returns ExecutionArn.decode depth arn.toJson arn :=
  ⟨.string _, fun _ => by
    simp [ExecutionArn.decode, ExecutionArn.toJson, Decoder.string, Doc.ofJson, Doc.text?]⟩

theorem ExecutionStatus.returns (status : ExecutionStatus) :
    Returns ExecutionStatus.decode depth status.toJson status :=
  returns_variant (by cases status <;> decide)

theorem AuditStatus.returns (status : AuditStatus) :
    Returns AuditStatus.decode depth status.toJson status :=
  returns_variant (by cases status <;> decide)

end Parts

theorem PipelineInput.returns (input : PipelineInput) :
    Returns PipelineInput.decode 2 input.toJson input := by
  have repositories := returns_texts 0 input.repositories
  have parameters := returns_textDict 0 input.parameters
  refine returns_record (fun _ _ => rfl) (by decide) rfl ?_ ?_
  · simp [repositories.plain, parameters.plain]
  · intro allowed within
    simp [Slot.required_ofField repositories within, Slot.required_ofField parameters within]

theorem BuildVariable.returns (override : BuildVariable) :
    Returns BuildVariable.decode 1 override.toJson override := by
  refine returns_record (fun _ _ => rfl) (by decide) rfl ?_ ?_
  · simp [Plain.string]
  · intro allowed _
    simp

theorem PipelineDefinition.returns (definition : PipelineDefinition) :
    Returns PipelineDefinition.decode 1 definition.toJson definition := by
  refine returns_record (fun _ _ => rfl) (by decide) rfl ?_ ?_
  · simp [Plain.string, str]
  · intro allowed _
    simp [str]

theorem Provider.returns (provider : Provider) :
    Returns Provider.decode 1 provider.toJson provider := by
  refine returns_record (fun _ _ => rfl) (by decide) rfl ?_ ?_
  · simp [Plain.string]
  · intro allowed _
    simp

theorem Requester.returns (requester : Requester) :
    Returns Requester.decode 2 requester.toJson requester := by
  have groups := returns_texts 0 requester.groups
  refine returns_record (fun _ _ => rfl) (by decide) rfl ?_ ?_
  · simp [Plain.string, groups.plain]
  · intro allowed within
    simp [Slot.withDefault_ofField groups within]

theorem StartedExecution.returns {started : StartedExecution} (start : started.startDate.Common) :
    Returns StartedExecution.decode 1 started.toJson started := by
  have arn := started.execution.returns 0
  have start := returns_instant 0 start
  refine returns_record (fun _ _ => rfl) (by decide) rfl ?_ ?_
  · simp [arn.plain, start.plain]
  · intro allowed within
    simp [Slot.required_ofField arn within, Slot.required_ofField start within]

/-- Both times are common ones. -/
structure ExecutionDescription.Common (description : ExecutionDescription) : Prop where
  start : description.startDate.Common
  stop : ∀ t ∈ description.stopDate, t.Common

theorem ExecutionDescription.returns {description : ExecutionDescription}
    (common : description.Common) :
    Returns ExecutionDescription.decode 1 description.toJson description := by
  -- Optional fields are appended one by one; as a list of written fields they are one record.
  have form : description.toJson = .object (Json.written [
      ("executionArn", some description.execution.toJson),
      ("status", some description.status.toJson),
      ("startDate", some (.instant description.startDate)),
      ("stopDate", description.stopDate.map .instant),
      ("output", description.output.map .string),
      ("error", description.error.map .string),
      ("cause", description.cause.map .string)]) := by
    simp [toJson, Json.written, Json.optional]
  have arn := description.execution.returns 0
  have status := description.status.returns 0
  have start := returns_instant 0 common.start
  rw [form]
  refine returns_written (fun _ _ => rfl) (by decide) rfl ?_ ?_
  · simp [Plain.string, arn.plain, status.plain, Json.instant]
  · intro allowed within
    simp [Slot.required_ofField arn within, Slot.required_ofField status within,
      Slot.required_ofField start within,
      Slot.optional_ofField (fun t here => returns_instant 0 (common.stop t here)) within (by rintro _ ⟨⟩)]

/-- A number of 64 bits and a common time. -/
structure HistoryEvent.Common (event : HistoryEvent) : Prop where
  least : Numeral.leastSigned 64 ≤ event.id
  greatest : event.id ≤ Numeral.greatestSigned 64
  timestamp : event.timestamp.Common

theorem HistoryEvent.returns {event : HistoryEvent} (common : event.Common) :
    Returns HistoryEvent.decode 1 event.toJson event := by
  have form : event.toJson = .object (Json.written [
      ("id", some (.int event.id)),
      ("type", some (.string event.type)),
      ("timestamp", some (.instant event.timestamp)),
      ("detail", event.detail.map .string)]) := by
    simp [toJson, Json.written, Json.optional]
  have id := Decoder.returns_int64 0 common.least common.greatest
  have timestamp := returns_instant 0 common.timestamp
  rw [form]
  refine returns_written (fun _ _ => rfl) (by decide) rfl ?_ ?_
  · simp [Plain.string, id.plain, timestamp.plain]
  · intro allowed within
    simp [Slot.required_ofField id within, Slot.required_ofField timestamp within]

theorem CompletedExecution.returns {completed : CompletedExecution}
    (details : completed.details.Common) (trace : ∀ event ∈ completed.trace, event.Common) :
    Returns CompletedExecution.decode 3 completed.toJson completed := by
  have status := completed.status.returns 2
  have details := (ExecutionDescription.returns details).mono (show 1 ≤ 2 by decide)
  have trace := returns_list fun event here => HistoryEvent.returns (trace event here)
  refine returns_record (fun _ _ => rfl) (by decide) rfl ?_ ?_
  · simp [status.plain, details.plain, trace.plain]
  · intro allowed within
    simp [Slot.required_ofField status within, Slot.required_ofField details within,
      Slot.required_ofField trace within]

theorem AuditEntry.returns (entry : AuditEntry) :
    Returns AuditEntry.decode 1 entry.toJson entry := by
  have status := entry.status.returns 0
  refine returns_record (fun _ _ => rfl) (by decide) rfl ?_ ?_
  · simp [Plain.string, status.plain]
  · intro allowed within
    simp [Slot.required_ofField status within]

theorem AuditRecord.returns {record : AuditRecord}
    (least : Numeral.leastSigned 64 ≤ record.sequence)
    (greatest : record.sequence ≤ Numeral.greatestSigned 64) :
    Returns AuditRecord.decode 1 record.toJson record := by
  have sequence := Decoder.returns_int64 0 least greatest
  have status := record.status.returns 0
  refine returns_record (fun _ _ => rfl) (by decide) rfl ?_ ?_
  · simp [Plain.string, sequence.plain, status.plain]
  · intro allowed within
    simp [Slot.required_ofField sequence within, Slot.required_ofField status within]

theorem AuditOutcome.returns (outcome : AuditOutcome) :
    Returns AuditOutcome.decode 1 outcome.toJson outcome := by
  have form : outcome.toJson = .object (Json.written [
      ("status", some (.string (statusText outcome.succeeded))),
      ("message", some (.string outcome.message)),
      ("record_id", outcome.recordId.map .string)]) := by
    simp [toJson, Json.written, Json.optional]
  have status : Returns (.variant ofStatus?) 0 (.string (statusText outcome.succeeded))
      outcome.succeeded := returns_variant (by cases outcome.succeeded <;> decide)
  rw [form]
  refine returns_written (fun _ _ => rfl) (by decide) rfl ?_ ?_
  · simp [Plain.string]
  · intro allowed within
    simp [Slot.required_ofField status within]

theorem AuditReport.returns (report : AuditReport) :
    Returns AuditReport.decode 2 report.toJson report := by
  have form : report.toJson = .object (Json.written [
      ("inProgress", report.inProgress.map AuditOutcome.toJson),
      ("terminal", report.terminal.map AuditOutcome.toJson)]) := by
    simp [toJson, Json.written]
  have outcome (outcome : AuditOutcome) := outcome.returns
  rw [form]
  refine returns_written (fun _ _ => rfl) (by decide) rfl ?_ ?_
  · simp [(outcome _).plain]
  · intro allowed within
    simp [Slot.nullable_ofField (fun o _ => outcome o) within (by rintro _ ⟨⟩)]

theorem DeploymentResult.returns {result : DeploymentResult} (start : result.startDate.Common) :
    Returns DeploymentResult.decode 3 result.toJson result := by
  have form : result.toJson = .object (Json.written [
      ("account", some (.string result.account)),
      ("region", some (.string result.region)),
      ("vpcId", some (.string result.vpcId)),
      ("clusterArn", result.clusterArn.map .string),
      ("cfnOutputs", some (.object (result.outputs.map .string).entries)),
      ("executionArn", some result.execution.toJson),
      ("startDate", some (.instant result.startDate)),
      ("audit", some result.audit.toJson)]) := by
    simp [toJson, Json.written, Json.optional]
  have outputs := returns_textDict 1 result.outputs
  have arn := result.execution.returns 2
  have start := returns_instant 2 start
  have audit := result.audit.returns
  rw [form]
  refine returns_written (fun _ _ => rfl) (by decide) rfl ?_ ?_
  · simp [Plain.string, outputs.plain, arn.plain, start.plain, audit.plain]
  · intro allowed within
    simp [Slot.required_ofField outputs within, Slot.required_ofField arn within,
      Slot.required_ofField start within, Slot.required_ofField audit within]

theorem DeploymentRequest.returns {request : DeploymentRequest} {depth : Nat} (enough : 1 ≤ depth)
    (plain : ∀ field ∈ request.parameters.entries, field.2.Plain depth) :
    Returns DeploymentRequest.decode (depth + 2) request.toJson request := by
  have form : request.toJson = .object (Json.written [
      ("environmentRef", some (.string request.environmentRef)),
      ("boilerplateRepositories", some (.array (request.repositories.map .string))),
      ("inputParameters", some (.object (request.parameters.map id).entries)),
      ("actionType", some (.string request.actionType)),
      ("requester", some request.requester.toJson),
      ("owner", request.owner.map .string)]) := by
    simp [toJson, Json.written, Json.optional, Dict.map]
  have repositories := returns_texts depth request.repositories
  have parameters : Returns (.dict .json) (depth + 1) (.object (request.parameters.map id).entries)
      request.parameters := returns_dict fun field here => Decoder.returns_json (plain field here)
  have requester := request.requester.returns.mono (show 2 ≤ depth + 1 by omega)
  rw [form]
  refine returns_written (fun _ _ => rfl) (by decide) rfl ?_ ?_
  · simp [Plain.string, repositories.plain, parameters.plain, requester.plain]
  · intro allowed within
    simp [Slot.required_ofField repositories within, Slot.withDefault_ofField parameters within,
      Slot.required_ofField requester within]

end Rollout
