import Rollout.Proofs.Deploying

/-!
What a deployment leaves in the ledger. A run that returns either failed before
anything was recorded or wrote two records, whatever the world around it
answered: the first before the engine is asked anything, the second at its end.
-/

namespace Rollout

open Dialogue

/-- The report that travels with the end of a deployment. -/
def Deployment.report? : Except DeploymentError DeploymentResult → Option AuditReport
  | .ok result => some result.audit
  | .error e => e.audit?

/-- The status of the record that closes a deployment. -/
def Deployment.closingStatus : Except DeploymentError DeploymentResult → AuditStatus
  | .ok _ => .success
  | .error _ => .failed

namespace Journal

def Unrecorded (journal : Journal) : Prop := ∀ x ∈ journal, x.question.isRecord = false

/-- Neither recorded nor seen by the engine. -/
def Quiet (journal : Journal) : Prop :=
  ∀ x ∈ journal, x.question.isRecord = false ∧ x.question.asksEngine = false

def FailedEarly (journal : Journal) (result : Except DeploymentError DeploymentResult) : Prop :=
  Quiet journal ∧ ∃ e, result = .error e ∧ e.audit? = none

/-- One record before the engine is asked and one at the end, the entries alike but for status
and message, and both outcomes in the report. -/
def RecordedTwice (journal : Journal) (result : Except DeploymentError DeploymentResult) : Prop :=
  ∃ (before during : Journal) (grant : Grant) (entry : AuditEntry) (message : String)
    (opened closed : AuditOutcome),
    journal = before ++ ⟨.record grant entry, opened⟩ :: during ++
      [⟨.record grant (entry.withStatus (Deployment.closingStatus result) message), closed⟩] ∧
    Quiet before ∧ Unrecorded during ∧ entry.status = .inProgress ∧
    Deployment.report? result = some ⟨some opened, some closed⟩

theorem unrecorded_steps (calls : Trace) : Unrecorded (calls.map Exchange.step) := by
  intro x member
  obtain ⟨call, _, rfl⟩ := List.mem_map.mp member
  rfl

theorem unrecorded_append {first second : Journal} (one : Unrecorded first)
    (two : Unrecorded second) : Unrecorded (first ++ second) := by
  intro x member
  rcases List.mem_append.mp member with early | late
  · exact one x early
  · exact two x late

end Journal

namespace Deployment

open Journal

namespace Sample

def settings : DeploymentSettings :=
  ⟨⟨"opa", .convention, "deploy"⟩, ⟨1000, 20, 12⟩, "/machine", "BAK_STACK"⟩

def request : DeploymentRequest :=
  ⟨"dev", ["app"], ∅, "deploy", ⟨"ada", []⟩, none⟩

/-- A world where nothing goes wrong. -/
def answer : (c : Call) → c.Answer
  | .providers _ => .ok [Sample.provider]
  | .findRole _ _ => .ok none
  | .assumeRole _ => .ok ⟨"key", "secret", "token", none⟩
  | .parameter _ path => .ok (some path)
  | .startExecution _ _ _ => .ok ⟨⟨"arn:run"⟩, .epoch⟩
  | .describe _ execution => .ok ⟨execution, .succeeded, .epoch, none, none, none, none⟩
  | .history _ _ _ => .ok []
  | .stamp => (1 : Int)
  | .append _ _ _ => .ok ()
  | .clock => Time.Instant.epoch
  | .sleep _ => ()
  | .showEvent _ _ => ()
  | .showHeartbeat _ _ _ _ => ()

end Sample

variable {settings : DeploymentSettings} {request : DeploymentRequest}

/-- Resolving leaves no record, and its errors carry no report. -/
theorem resolved_quiet {journal : Journal} {result : Except DeploymentError DeploymentContext}
    (resolved : Resolved settings request journal result) :
    Quiet journal ∧ Early (fun context => context.entry.status = .inProgress) result := by
  cases resolved with
  | malformed refused => exact ⟨by simp [Quiet], rfl⟩
  | unlisted =>
      refine ⟨?_, ofCatalog_unaudited _⟩
      simp [Quiet, Step.isRecord, Step.asksEngine, Call.asksEngine]
  | empty =>
      refine ⟨?_, rfl⟩
      simp [Quiet, Step.isRecord, Step.asksEngine, Call.asksEngine]
  | listed prepares early =>
      refine ⟨List.forall_mem_cons.mpr ⟨⟨rfl, rfl⟩, fun x member =>
        Step.prepares_quiet (prepares x member)⟩, ?_⟩
      cases result with
      | error e => exact early
      | ok context =>
          have same : context.entry = _ := early
          rw [Early, same]
          rfl

/-- A start that fails does so before the first record or after its second. -/
theorem failed_start_recorded {journal : Journal} {e : DeploymentError}
    (way : Started settings request journal (.error e)) :
    FailedEarly journal (.error e) ∨ RecordedTwice journal (.error e) := by
  cases way with
  | invalid refused =>
      left
      exact ⟨by simp [Quiet], _, rfl, rfl⟩
  | unresolved resolved =>
      left
      obtain ⟨quiet, early⟩ := resolved_quiet resolved
      exact ⟨quiet, e, rfl, early⟩
  | @unencoded before context inProgress terminal reason source resolved encoded refused =>
      right
      obtain ⟨quiet, opening⟩ := resolved_quiet resolved
      exact ⟨before, [], context.grant, context.entry, source.message, inProgress, terminal,
        by simp [closingStatus], quiet, by simp [Unrecorded], opening, rfl⟩
  | @rejected before context inProgress terminal input source resolved encoded =>
      right
      obtain ⟨quiet, opening⟩ := resolved_quiet resolved
      have during : Unrecorded
          [⟨.call (.startExecution context.grant context.stateMachine input), .error source⟩] := by
        simp [Unrecorded, Step.isRecord]
      exact ⟨before, _, context.grant, context.entry, source.message, inProgress, terminal,
        by simp [closingStatus], quiet, during, opening, rfl⟩

/-- A start that succeeds has left the first record. -/
theorem start_recorded {journal : Journal} {started : StartedDeployment}
    (way : Started settings request journal (.ok started)) :
    ∃ before after, journal = before ++
        ⟨.record started.context.grant started.context.entry, started.inProgress⟩ :: after ∧
      Quiet before ∧ Unrecorded after ∧ started.context.entry.status = .inProgress := by
  cases way with
  | accepted resolved encoded =>
      obtain ⟨quiet, opening⟩ := resolved_quiet resolved
      exact ⟨_, _, rfl, quiet, by simp [Unrecorded, Step.isRecord], opening⟩

/-- Watching records nothing; what ends a deployment leaves the second record. -/
theorem completion_recorded {polls : Nat} {started : StartedDeployment} {journal : Journal}
    {result : Except DeploymentError DeploymentResult}
    (way : Completed settings polls started journal (some result)) :
    ∃ watched message terminal, journal = watched ++
        [⟨.record started.context.grant
          (started.context.entry.withStatus (closingStatus result) message), terminal⟩] ∧
      Unrecorded watched ∧ report? result = some ⟨some started.inProgress, some terminal⟩ := by
  cases way with
  | unwatched watch =>
      obtain ⟨calls, rfl, _⟩ := watch
      exact ⟨_, _, _, rfl, unrecorded_steps calls, rfl⟩
  | failed watch status =>
      obtain ⟨calls, rfl, _⟩ := watch
      exact ⟨_, _, _, rfl, unrecorded_steps calls, rfl⟩
  | unreadable watch status output =>
      obtain ⟨calls, rfl, _⟩ := watch
      exact ⟨_, _, _, rfl, unrecorded_steps calls, rfl⟩
  | succeeded watch status output =>
      obtain ⟨calls, rfl, _⟩ := watch
      exact ⟨_, _, _, rfl, unrecorded_steps calls, rfl⟩

theorem plan_recorded {polls : Nat} {journal : Journal}
    {result : Except DeploymentError DeploymentResult}
    (ran : (plan settings polls request).Ran journal (some result)) :
    FailedEarly journal result ∨ RecordedTwice journal result := by
  rcases plan_ran ran with ⟨e, same, way⟩ | ⟨first, second, started, rfl, way, completed⟩
  · cases same
    exact failed_start_recorded way
  · right
    obtain ⟨before, after, rfl, quiet, unrecorded, opening⟩ := start_recorded way
    obtain ⟨watched, message, terminal, rfl, watching, report⟩ := completion_recorded completed
    exact ⟨before, after ++ watched, started.context.grant, started.context.entry, message,
      started.inProgress, terminal, by simp, quiet, unrecorded_append unrecorded watching,
      opening, report⟩

/-- The calls of every run that returns are those of a journal without records, or with two. -/
theorem deploy_recorded_twice {polls : Nat} {calls : Trace}
    {result : Except DeploymentError DeploymentResult}
    (ran : (deploy settings polls request).Ran calls (some result)) :
    ∃ journal, (plan settings polls request).Ran journal (some result) ∧
      Spelled Step.program journal calls ∧
      (FailedEarly journal result ∨ RecordedTwice journal result) := by
  obtain ⟨journal, steps, spelled⟩ := Plan.ran_program.mp ran
  exact ⟨journal, steps, spelled, plan_recorded steps⟩

theorem sample_recorded_twice :
    ∃ calls result journal,
      (deploy Sample.settings 1 Sample.request).Ran calls (some (.ok result)) ∧
      (plan Sample.settings 1 Sample.request).Ran journal (some (.ok result)) ∧
      Spelled Step.program journal calls ∧ RecordedTwice journal (.ok result) := by
  have ends : ∃ result, ((deploy Sample.settings 1 Sample.request).answered Sample.answer).2 =
      some (.ok result) := ⟨_, rfl⟩
  have ran := answered_ran Sample.answer (deploy Sample.settings 1 Sample.request)
  obtain ⟨result, same⟩ := ends
  rw [same] at ran
  obtain ⟨journal, steps, spelled, early | twice⟩ := deploy_recorded_twice ran
  · obtain ⟨_, _, absurdity, _⟩ := early
    cases absurdity
  · exact ⟨_, result, journal, ran, steps, spelled, twice⟩

end Deployment

end Rollout
