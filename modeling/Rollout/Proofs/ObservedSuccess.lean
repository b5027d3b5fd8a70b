import Rollout.Proofs.AuditTrail

/-!
What becomes of a success that a poll has seen. The poll goes on to read the
history, and only if that read is answered does the success reach the ledger.
-/

namespace Rollout

open Dialogue

namespace Monitor

/-- How a watch ends with the poll that saw the execution ended: by its read of the history. -/
def EndsBy (details : ExecutionDescription) (read : Except EngineError (List HistoryEvent))
    (result : Except EngineError CompletedExecution) : Prop :=
  match read with
  | .error cause => result = .error cause
  | .ok _ => ∃ completed, result = .ok completed ∧
      completed.status = details.status ∧ completed.details = details

variable {settings : MonitorSettings} {grant seen : Grant} {execution watched : ExecutionArn}
variable {details : ExecutionDescription}

/-- A poll that sees the execution ended is the last one. -/
theorem polled_ended {s : State} {trace : Trace}
    {result : Except EngineError (CompletedExecution ⊕ State)}
    (poll : Polled settings grant execution s trace result)
    (member : ⟨.describe seen watched, .ok details⟩ ∈ trace)
    (terminal : details.status.isTerminal = true) :
    ∃ read after ended,
      trace = ⟨.describe seen watched, .ok details⟩ ::
        ⟨.history seen watched settings.historyWindow, read⟩ :: after ∧
      watched = execution ∧ result = ended.map .inl ∧ EndsBy details read ended := by
  cases poll with
  | describeFailed e =>
      have same := List.mem_singleton.mp member
      cases same
  | historyFailed found e =>
      rcases List.mem_cons.mp member with same | member
      · cases same
        exact ⟨.error e, [], .error e, rfl, rfl, rfl, rfl⟩
      · have same := List.mem_singleton.mp member
        cases same
  | ended found window stopped =>
      rcases List.mem_cons.mp member with same | member
      · cases same
        exact ⟨.ok window, _, .ok _, rfl, rfl, rfl, _, rfl, rfl, rfl⟩
      · rcases List.mem_cons.mp member with same | member
        · cases same
        · cases shows_display _ _ _ member
  | running found window live =>
      rcases List.mem_cons.mp member with same | member
      · cases same
        rw [terminal] at live
        cases live
      · rcases List.mem_cons.mp member with same | member
        · cases same
        · rcases List.mem_append.mp member with shown | paused
          · cases shows_display _ _ _ shown
          · cases pauses_display _ _ _ paused

theorem watched_ended {polls : Nat} {s : State} {trace : Trace}
    {outcome : Option (Except EngineError CompletedExecution)}
    (watch : Watched settings grant execution polls s trace outcome)
    (member : ⟨.describe seen watched, .ok details⟩ ∈ trace)
    (terminal : details.status.isTerminal = true) :
    ∃ before read after ended,
      trace = before ++ ⟨.describe seen watched, .ok details⟩ ::
        ⟨.history seen watched settings.historyWindow, read⟩ :: after ∧
      watched = execution ∧ outcome = some ended ∧ EndsBy details read ended := by
  induction watch with
  | exhausted s => cases member
  | failed poll =>
      obtain ⟨read, after, ended, rfl, same, result, ends⟩ := polled_ended poll member terminal
      cases ended with
      | error cause =>
          cases result
          exact ⟨[], read, after, _, rfl, same, rfl, ends⟩
      | ok completed => cases result
  | ended poll =>
      obtain ⟨read, after, ended, rfl, same, result, ends⟩ := polled_ended poll member terminal
      cases ended with
      | error cause => cases result
      | ok completed =>
          cases result
          exact ⟨[], read, after, _, rfl, same, rfl, ends⟩
  | @further polls s next trace rest outcome poll others ih =>
      rcases List.mem_append.mp member with early | late
      · obtain ⟨_, _, ended, _, _, result, _⟩ := polled_ended poll early terminal
        cases ended <;> cases result
      · obtain ⟨before, read, after, ended, rfl, kept⟩ := ih late
        exact ⟨trace ++ before, read, after, ended, (List.append_assoc ..).symm, kept⟩

end Monitor

theorem Audit.written_asks_nothing {grant : Grant} {entry : AuditEntry} {trace : Trace}
    {reason : Option String} {outcome : AuditOutcome}
    (written : Written grant entry trace reason outcome) :
    ∀ x ∈ trace, x.question.asksEngine = false := by
  cases written <;> simp [Call.asksEngine]

namespace Journal

/-- Engine calls are steps of their own, never part of a record. -/
theorem mem_of_spelled {journal : Journal} {calls : Trace}
    (spelled : Spelled Step.program journal calls) {x : Exchange Call Call.Answer}
    (member : x ∈ calls) (asks : x.question.asksEngine = true) : x.step ∈ journal := by
  induction spelled with
  | nil => cases member
  | @cons step answer part rest steps first others ih =>
      rcases List.mem_append.mp member with here | later
      · cases step with
        | call c =>
            obtain ⟨_, rfl, same⟩ := Plan.ran_call.mp first
            cases same
            obtain rfl := List.mem_singleton.mp here
            exact List.mem_cons_self
        | record grant entry =>
            obtain ⟨reason, outcome, _, written⟩ := Audit.record_ran first
            rw [Audit.written_asks_nothing written x here] at asks
            cases asks
      · exact List.mem_cons_of_mem _ (ih later)

/-- The last step is a record with the status. -/
def ClosedAs (journal : Journal) (status : AuditStatus) : Prop :=
  ∃ before grant entry closed, journal = before ++ [⟨.record grant entry, closed⟩] ∧
    entry.status = status

theorem closedAs_of_recordedTwice {journal : Journal}
    {result : Except DeploymentError DeploymentResult} (recorded : RecordedTwice journal result) :
    ClosedAs journal (Deployment.closingStatus result) := by
  obtain ⟨before, during, grant, entry, message, opened, closed, rfl, _⟩ := recorded
  exact ⟨_, grant, _, closed, rfl, AuditEntry.status_withStatus ..⟩

theorem closedAs_append {first second : Journal} {status : AuditStatus}
    (closed : ClosedAs second status) : ClosedAs (first ++ second) status := by
  obtain ⟨before, grant, entry, answer, rfl, same⟩ := closed
  exact ⟨first ++ before, grant, entry, answer, (List.append_assoc ..).symm, same⟩

end Journal

namespace Deployment

open Journal

variable {settings : DeploymentSettings} {request : DeploymentRequest} {polls : Nat}
variable {seen : Grant} {execution : ExecutionArn} {details : ExecutionDescription}

/-- The end of a deployment whose execution was seen to succeed, by how the history was read. -/
def SettledBy (execution : ExecutionArn) (read : Except EngineError (List HistoryEvent))
    (journal : Journal) (outcome : Option (Except DeploymentError DeploymentResult)) : Prop :=
  match read with
  | .error cause => ClosedAs journal .failed ∧
      ∃ report, outcome = some (.error (.monitor execution cause report))
  | .ok _ => ClosedAs journal .success ∧ ∃ result, outcome = some (.ok result)

/-- Nothing is described before the engine has accepted the execution. -/
theorem start_describes_nothing {journal : Journal}
    {result : Except DeploymentError StartedDeployment}
    (way : Started settings request journal result) :
    Step.call (.describe seen execution) ∉ journal.map Exchange.question := by
  have quiet : ∀ {before : Journal} {result : Except DeploymentError DeploymentContext},
      Resolved settings request before result →
      Step.call (.describe seen execution) ∉ before.map Exchange.question := by
    intro before result resolved member
    obtain ⟨x, early, same⟩ := List.mem_map.mp member
    have unasked := ((resolved_quiet resolved).1 x early).2
    rw [same] at unasked
    cases unasked
  intro member
  cases way with
  | invalid refused => cases member
  | unresolved resolved => exact quiet resolved member
  | unencoded resolved encoded refused => exact quiet resolved (by simpa using member)
  | rejected resolved encoded => exact quiet resolved (by simpa using member)
  | accepted resolved encoded => exact quiet resolved (by simpa using member)

/-- The steps of a watch that saw the execution ended. -/
theorem watchedIn_ended {started : StartedDeployment} {journal : Journal}
    {outcome : Option (Except EngineError CompletedExecution)}
    (watch : WatchedIn settings started polls journal outcome)
    (member : ⟨.call (.describe seen execution), .ok details⟩ ∈ journal)
    (terminal : details.status.isTerminal = true) :
    ∃ read ended,
      [⟨.call (.describe seen execution), .ok details⟩,
        ⟨.call (.history seen execution settings.monitor.historyWindow), read⟩] <:+: journal ∧
      execution = started.execution ∧ outcome = some ended ∧
      Monitor.EndsBy details read ended := by
  obtain ⟨calls, rfl, watch⟩ := watch
  obtain ⟨x, described, same⟩ := List.mem_map.mp member
  obtain ⟨question, answer⟩ := x
  cases same
  obtain ⟨before, read, after, ended, rfl, kept⟩ := Monitor.watched_ended watch described terminal
  exact ⟨read, ended, ⟨before.map Exchange.step, after.map Exchange.step, by simp [Exchange.step]⟩,
    kept⟩

theorem completion_ended {started : StartedDeployment} {journal : Journal}
    {outcome : Option (Except DeploymentError DeploymentResult)} {outputs : Dict String}
    (way : Completed settings polls started journal outcome)
    (member : ⟨.call (.describe seen execution), .ok details⟩ ∈ journal)
    (succeeded : details.status = .succeeded)
    (readable : Output.aggregateText settings.reserved details.output = .ok outputs) :
    ∃ read,
      [⟨.call (.describe seen execution), .ok details⟩,
        ⟨.call (.history seen execution settings.monitor.historyWindow), read⟩] <:+: journal ∧
      SettledBy execution read journal outcome := by
  have terminal : details.status.isTerminal = true := by
    rw [succeeded]
    rfl
  have inWatch : ∀ {watched : Journal} {grant : Grant} {entry : AuditEntry} {answer : AuditOutcome},
      ⟨.call (.describe seen execution), .ok details⟩ ∈ watched ++ [⟨.record grant entry, answer⟩] →
      ⟨.call (.describe seen execution), .ok details⟩ ∈ watched := by
    intro watched grant entry answer member
    rcases List.mem_append.mp member with early | late
    · exact early
    · have same := List.mem_singleton.mp late
      cases same
  -- The watch ended in that poll: with the error of its second read, or with these details.
  cases way with
  | unfinished watch =>
      obtain ⟨_, _, _, _, absurdity, _⟩ := watchedIn_ended watch member terminal
      cases absurdity
  | unwatched watch =>
      obtain ⟨read, ended, adjacent, rfl, same, ends⟩ :=
        watchedIn_ended watch (inWatch member) terminal
      cases same
      cases read with
      | error cause =>
          cases ends
          exact ⟨.error _, adjacent.trans (List.prefix_append ..).isInfix,
            ⟨_, _, _, _, rfl, rfl⟩, _, rfl⟩
      | ok window =>
          obtain ⟨_, absurdity, _⟩ := ends
          cases absurdity
  | failed watch status =>
      obtain ⟨read, ended, _, _, same, ends⟩ := watchedIn_ended watch (inWatch member) terminal
      cases same
      cases read with
      | error cause => cases ends
      | ok window =>
          obtain ⟨_, same, kept, _⟩ := ends
          cases same
          exact absurd (kept.trans succeeded) status
  | unreadable watch status output =>
      obtain ⟨read, ended, _, _, same, ends⟩ := watchedIn_ended watch (inWatch member) terminal
      cases same
      cases read with
      | error cause => cases ends
      | ok window =>
          obtain ⟨_, same, _, kept⟩ := ends
          cases same
          rw [kept, readable] at output
          cases output
  | succeeded watch status output =>
      obtain ⟨read, ended, adjacent, _, same, ends⟩ :=
        watchedIn_ended watch (inWatch member) terminal
      cases same
      cases read with
      | error cause => cases ends
      | ok window =>
          exact ⟨.ok window, adjacent.trans (List.prefix_append ..).isInfix,
            ⟨_, _, _, _, rfl, rfl⟩, _, rfl⟩

theorem plan_settled {journal : Journal}
    {outcome : Option (Except DeploymentError DeploymentResult)} {outputs : Dict String}
    (ran : (plan settings polls request).Ran journal outcome)
    (member : ⟨.call (.describe seen execution), .ok details⟩ ∈ journal)
    (succeeded : details.status = .succeeded)
    (readable : Output.aggregateText settings.reserved details.output = .ok outputs) :
    ∃ read,
      [⟨.call (.describe seen execution), .ok details⟩,
        ⟨.call (.history seen execution settings.monitor.historyWindow), read⟩] <:+: journal ∧
      SettledBy execution read journal outcome := by
  rcases plan_ran ran with ⟨e, _, way⟩ | ⟨first, second, started, rfl, way, completed⟩
  · exact absurd (List.mem_map_of_mem member) (start_describes_nothing way)
  · rcases List.mem_append.mp member with early | late
    · exact absurd (List.mem_map_of_mem early) (start_describes_nothing way)
    · obtain ⟨read, adjacent, settled⟩ := completion_ended completed late succeeded readable
      refine ⟨read, adjacent.trans (List.suffix_append ..).isInfix, ?_⟩
      cases read with
      | error cause => exact ⟨closedAs_append settled.1, settled.2⟩
      | ok window => exact ⟨closedAs_append settled.1, settled.2⟩

/-- A success seen with readable output is kept exactly when the history read that follows in the
same poll is answered. If that read fails, the deployment ends in its error and is recorded as
`FAILED`. -/
theorem observed_success {calls : Trace}
    {outcome : Option (Except DeploymentError DeploymentResult)} {outputs : Dict String}
    (ran : (deploy settings polls request).Ran calls outcome)
    (observed : ⟨.describe seen execution, .ok details⟩ ∈ calls)
    (succeeded : details.status = .succeeded)
    (readable : Output.aggregateText settings.reserved details.output = .ok outputs) :
    ∃ journal read, (plan settings polls request).Ran journal outcome ∧
      Spelled Step.program journal calls ∧
      [⟨.call (.describe seen execution), .ok details⟩,
        ⟨.call (.history seen execution settings.monitor.historyWindow), read⟩] <:+: journal ∧
      ((ClosedAs journal .success ∧ ∃ result, outcome = some (.ok result)) ↔
        ∃ window, read = .ok window) ∧
      ∀ cause, read = .error cause → ClosedAs journal .failed ∧
        ∃ report, outcome = some (.error (.monitor execution cause report)) := by
  obtain ⟨journal, steps, spelled⟩ := Plan.ran_program.mp ran
  have member := mem_of_spelled spelled observed rfl
  obtain ⟨read, adjacent, settled⟩ := plan_settled steps member succeeded readable
  refine ⟨journal, read, steps, spelled, adjacent, ?_, ?_⟩
  · cases read with
    | error cause =>
        obtain ⟨_, _, rfl⟩ := settled
        constructor
        · rintro ⟨_, _, absurdity⟩
          cases absurdity
        · rintro ⟨_, absurdity⟩
          cases absurdity
    | ok window => exact ⟨fun _ => ⟨window, rfl⟩, fun _ => settled⟩
  · rintro cause rfl
    exact settled

theorem sample_success_kept :
    ∃ calls journal result,
      (deploy Sample.settings 1 Sample.request).Ran calls (some (.ok result)) ∧
      Spelled Step.program journal calls ∧ ClosedAs journal .success := by
  have ran := answered_ran Sample.answer (deploy Sample.settings 1 Sample.request)
  have ends : ∃ result, ((deploy Sample.settings 1 Sample.request).answered Sample.answer).2 =
      some (.ok result) := ⟨_, rfl⟩
  have observed : ∃ seen, ((deploy Sample.settings 1 Sample.request).answered
      Sample.answer).1[10]? = some ⟨.describe seen ⟨"arn:run"⟩,
        .ok ⟨⟨"arn:run"⟩, .succeeded, .epoch, none, none, none, none⟩⟩ := ⟨_, rfl⟩
  obtain ⟨result, same⟩ := ends
  obtain ⟨seen, place⟩ := observed
  rw [same] at ran
  obtain ⟨journal, read, _, spelled, _, kept, failed⟩ :=
    observed_success ran (List.mem_of_getElem? place) rfl rfl
  cases read with
  | ok window => exact ⟨_, journal, result, ran, spelled, (kept.mpr ⟨window, rfl⟩).1⟩
  | error cause =>
      obtain ⟨_, _, absurdity⟩ := failed cause rfl
      cases absurdity

/-- A world where nothing goes wrong but the read of the history. -/
def Sample.answerLosingHistory : (c : Call) → c.Answer
  | .history _ _ _ => .error (.transport "connection reset")
  | c => Sample.answer c

/-- A success without output that was seen, and is recorded as a failure. -/
theorem lost_history_fails_success :
    ∃ calls journal seen details report,
      (deploy Sample.settings 1 Sample.request).Ran calls
        (some (.error (.monitor ⟨"arn:run"⟩ (.transport "connection reset") report))) ∧
      Spelled Step.program journal calls ∧
      ⟨.describe seen ⟨"arn:run"⟩, .ok details⟩ ∈ calls ∧ details.status = .succeeded ∧
      details.output = none ∧ ClosedAs journal .failed := by
  have ran := answered_ran Sample.answerLosingHistory (deploy Sample.settings 1 Sample.request)
  have ends : ∃ report, ((deploy Sample.settings 1 Sample.request).answered
      Sample.answerLosingHistory).2 =
      some (.error (.monitor ⟨"arn:run"⟩ (.transport "connection reset") report)) := ⟨_, rfl⟩
  have observed : ∃ seen, ((deploy Sample.settings 1 Sample.request).answered
      Sample.answerLosingHistory).1[10]? = some ⟨.describe seen ⟨"arn:run"⟩,
        .ok ⟨⟨"arn:run"⟩, .succeeded, .epoch, none, none, none, none⟩⟩ := ⟨_, rfl⟩
  obtain ⟨report, same⟩ := ends
  obtain ⟨seen, place⟩ := observed
  rw [same] at ran
  obtain ⟨journal, steps, spelled⟩ := Plan.ran_program.mp ran
  rcases plan_recorded steps with ⟨_, _, absurdity, unaudited⟩ | recorded
  · cases absurdity
    cases unaudited
  · exact ⟨_, journal, seen, _, report, ran, spelled, List.mem_of_getElem? place, rfl, rfl,
      closedAs_of_recordedTwice recorded⟩

end Deployment

end Rollout
