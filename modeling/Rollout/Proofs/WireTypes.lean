import Rollout.Proofs.Starting

/-!
All types that are written as JSON and read again, and the two names a request
may give its list of repositories.
-/

namespace Rollout

open Doc (ofJson)
open Time (Instant)

section Aliases

variable {rename : String → String} {known : List String} {names : List (List String)}

/-- The document with other names for the fields of the object it is. -/
def Doc.renameFields (rename : String → String) : Doc → Doc
  | .object fields => .object (fields.map fun (key, doc) =>
      (key.map fun cs => (rename (String.ofList cs)).toList, doc))
  | doc => doc

theorem Decoder.findField_rename (alike : ∀ name, known.contains (rename name) = known.contains name)
    (fields : List (Option (List Char) × Doc)) :
    findField known (fields.map fun (key, doc) =>
      (key.map fun cs => (rename (String.ofList cs)).toList, doc)) = findField known fields := by
  induction fields with
  | nil => rfl
  | cons field rest ih =>
      obtain ⟨key, doc⟩ := field
      rw [List.map_cons]
      unfold findField
      rw [ih]
      cases key with
      | none => rfl
      | some cs =>
          cases findField known rest with
          | none => rfl
          | some found => simp only [Option.map_some, String.ofList_toList, alike]

/-- A record is the same under names its reader does not tell apart. -/
theorem Decoder.record_rename
    (alike : ∀ known ∈ names, ∀ name, known.contains (rename name) = known.contains name)
    (depth : Nat) (doc : Doc) :
    record names depth (doc.renameFields rename) = record names depth doc := by
  cases depth with
  | zero => cases doc <;> rfl
  | succ depth =>
      cases doc with
      | object fields =>
          rw [Doc.renameFields, record, record]
          induction names with
          | nil => rfl
          | cons known rest ih =>
              have others := ih fun known member => alike known (List.mem_cons_of_mem _ member)
              have first := findField_rename (alike known List.mem_cons_self) fields
              rw [objectSlots, objectSlots, others, first]
      | _ => rfl

namespace DeploymentRequest

/-- The first name of the list of repositories for its second. -/
def withoutAlias (name : String) : String :=
  if name = "repositories" then "boilerplateRepositories" else name

theorem decode_withoutAlias (depth : Nat) (doc : Doc) :
    decode depth (doc.renameFields withoutAlias) = decode depth doc := by
  unfold decode
  rw [Decoder.record_rename]
  intro known member name
  unfold withoutAlias
  split
  · subst name
    revert known
    decide
  · rfl

end DeploymentRequest

end Aliases

namespace Codec

/-- The printed text of a value is read as the value again, whatever its type. An engine that is
asked to start gets the repositories and parameters the deployment has put together, and a request
is read alike under both names of its list. -/
theorem printed_read_back :
    (∀ input : PipelineInput, ReadBack input) ∧
    (∀ override : BuildVariable, ReadBack override) ∧
    (∀ request : DeploymentRequest,
      (∀ field ∈ request.parameters.entries, field.2.Plain 100) → ReadBack request) ∧
    (∀ result : DeploymentResult, result.startDate.Common → ReadBack result) ∧
    (∀ provider : Provider, ReadBack provider) ∧
    (∀ started : StartedExecution, started.startDate.Common → ReadBack started) ∧
    (∀ description : ExecutionDescription, description.Common → ReadBack description) ∧
    (∀ event : HistoryEvent, event.Common → ReadBack event) ∧
    (∀ completed : CompletedExecution, completed.details.Common →
      (∀ event ∈ completed.trace, event.Common) → ReadBack completed) ∧
    (∀ entry : AuditEntry, ReadBack entry) ∧
    (∀ record : AuditRecord, Numeral.leastSigned 64 ≤ record.sequence →
      record.sequence ≤ Numeral.greatestSigned 64 → ReadBack record) ∧
    (∀ outcome : AuditOutcome, ReadBack outcome) ∧
    (∀ report : AuditReport, ReadBack report) ∧
    (∀ definition : PipelineDefinition, ReadBack definition) ∧
    (∀ settings polls request calls outcome,
      (Deployment.deploy settings polls request).Ran calls outcome →
      ∀ grant machine text answer, ⟨.startExecution grant machine text, answer⟩ ∈ calls →
      ∃ context, (Deployment.inputOf request context).text = text ∧
        ∀ (engine : Local.Engine) (id : String) (now : Instant),
          (lastSegment machine).isEmpty = false →
          ∃ started after,
            engine.start grant.region grant.account machine text id now = (.ok started, after) ∧
            (after.run? started.execution.text).map Local.Run.input =
              some (Deployment.inputOf request context)) ∧
    (∀ text aliased doc, Doc.parse aliased = some doc →
      Doc.parse text = some (doc.renameFields DeploymentRequest.withoutAlias) →
      DeploymentRequest.decode.readText aliased = DeploymentRequest.decode.readText text) := by
  refine ⟨fun input => ?_, fun override => ?_, fun request plain => ?_, fun result start => ?_,
    fun provider => ?_, fun started start => ?_, fun description common => ?_,
    fun event common => ?_, fun completed details trace => ?_, fun entry => ?_,
    fun record least greatest => ?_, fun outcome => ?_, fun report => ?_, fun definition => ?_,
    ?_, ?_⟩
  · exact readBack_of_returns input.returns (by decide)
  · exact readBack_of_returns override.returns (by decide)
  · exact readBack_of_returns (DeploymentRequest.returns (by decide) plain) (by decide)
  · exact readBack_of_returns (DeploymentResult.returns start) (by decide)
  · exact readBack_of_returns provider.returns (by decide)
  · exact readBack_of_returns (StartedExecution.returns start) (by decide)
  · exact readBack_of_returns (ExecutionDescription.returns common) (by decide)
  · exact readBack_of_returns (HistoryEvent.returns common) (by decide)
  · exact readBack_of_returns (CompletedExecution.returns details trace) (by decide)
  · exact readBack_of_returns entry.returns (by decide)
  · exact readBack_of_returns (AuditRecord.returns least greatest) (by decide)
  · exact readBack_of_returns outcome.returns (by decide)
  · exact readBack_of_returns report.returns (by decide)
  · exact readBack_of_returns definition.returns (by decide)
  · intro settings polls request calls outcome ran grant machine text answer member
    obtain ⟨context, _, rfl⟩ := Deployment.deploy_input ran member
    refine ⟨context, rfl, fun engine id now named => ?_⟩
    exact engine.start_text grant.region grant.account named _ id now
  · intro text aliased doc read renamed
    rw [Decoder.readText, Decoder.readText, read, renamed, Option.bind_some, Option.bind_some,
      DeploymentRequest.decode_withoutAlias]

namespace Sample

def request : DeploymentRequest :=
  ⟨"dev", ["app"], Dict.ofList [("sizes", .array [.int 2, .null, .object [("deep", .bool true)]])],
    "deploy", ⟨"ada", []⟩, none⟩

/-- What `request` is written as, but for the name of its list. -/
def aliased : Json :=
  .object [
    ("environmentRef", .string "dev"),
    ("repositories", .array [.string "app"]),
    ("inputParameters", .object request.parameters.entries),
    ("actionType", .string "deploy"),
    ("requester", request.requester.toJson)]

def event : HistoryEvent := ⟨1, "ExecutionStarted", .epoch, none⟩

def description : ExecutionDescription :=
  ⟨⟨"arn:run"⟩, .failed, .epoch, some ⟨86399, 500000000⟩, none, some "States.TaskFailed", none⟩

def record : AuditRecord :=
  .ofEntry ⟨"deploy", "app", "ada", "", "role", "000011112222", "us-east-1", "opa", "east", "app",
    "", .inProgress, ""⟩ 1

def result : DeploymentResult :=
  ⟨"000011112222", "us-east-1", "vpc", none, Dict.ofList [("url", "here")], ⟨"arn:run"⟩, .epoch,
    ⟨some (.success "id"), none⟩⟩

theorem request_plain : ∀ field ∈ request.parameters.entries, field.2.Plain 100 := by
  intro field member
  obtain rfl := List.mem_singleton.mp member
  refine .array ?_
  simp only [List.forall_mem_cons, List.not_mem_nil, false_implies, implies_true, and_true]
  exact ⟨.int 2 (by decide) (by decide), .null, Json.plain_field "deep" (.bool true)⟩

theorem aliased_plain : aliased.Plain Doc.deepest := by
  refine .object (by decide) ?_
  simp only [List.forall_mem_cons, List.not_mem_nil, false_implies, implies_true, and_true]
  refine ⟨.string _, (returns_texts 0 ["app"]).plain.mono (by decide), ?_, .string _,
    request.requester.returns.plain.mono (by decide)⟩
  exact (Json.Plain.object (Dict.nodup_entries _) request_plain).mono (by decide)

theorem epoch_common : Instant.epoch.Common := ⟨by decide, by decide, by decide⟩

theorem event_common : event.Common := ⟨by decide, by decide, epoch_common⟩

theorem description_common : description.Common := by
  refine ⟨epoch_common, fun t here => ?_⟩
  obtain rfl := Option.some.inj here
  exact ⟨by decide, by decide, by decide⟩

end Sample

/-- The deployment of the sample world, whose state machine has its path as name. -/
theorem sample_printed_read_back :
    ReadBack Sample.request ∧ ReadBack Sample.result ∧ ReadBack Sample.record ∧
    ReadBack (⟨.failed, Sample.description, [Sample.event]⟩ : CompletedExecution) ∧
    (∃ (context : DeploymentContext) (started : StartedExecution) (after : Local.Engine),
      (after.run? started.execution.text).map Local.Run.input =
        some (Deployment.inputOf Deployment.Sample.request context)) ∧
    DeploymentRequest.decode.readText Sample.aliased.compact = some Sample.request := by
  obtain ⟨_, _, requests, results, _, _, _, _, completions, _, records, _, _, _, starts, aliases⟩ :=
    printed_read_back
  have request := requests Sample.request Sample.request_plain
  refine ⟨request, results _ Sample.epoch_common, records _ (by decide) (by decide),
    completions _ Sample.description_common (by simpa using Sample.event_common), ?_, ?_⟩
  · have ran := Dialogue.answered_ran Deployment.Sample.answer
      (Deployment.deploy Deployment.Sample.settings 1 Deployment.Sample.request)
    have tenth : ∃ grant text answer,
        ((Deployment.deploy Deployment.Sample.settings 1 Deployment.Sample.request).answered
          Deployment.Sample.answer).1[9]? = some ⟨.startExecution grant "/machine" text, answer⟩ :=
      ⟨_, _, _, rfl⟩
    obtain ⟨grant, text, answer, tenth⟩ := tenth
    obtain ⟨context, _, seen⟩ := starts _ _ _ _ _ ran _ _ _ _ (List.mem_of_getElem? tenth)
    obtain ⟨started, after, _, input⟩ := seen {} "1" .epoch (by decide)
    exact ⟨context, started, after, input⟩
  · refine (aliases Sample.request.toJson.compact Sample.aliased.compact _
      (Doc.parse_compact Sample.aliased_plain) ?_).trans request
    have plain : Sample.request.toJson.Plain 102 :=
      (DeploymentRequest.returns (by decide) Sample.request_plain).plain
    rw [Doc.parse_compact plain]
    rfl

end Codec

end Rollout
