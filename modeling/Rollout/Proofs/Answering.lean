import Mathlib.Data.List.Basic
import Rollout.Api.Routes
import Rollout.Proofs.AuditTrail
import Rollout.Proofs.JsonText

/-!
What the answer to a deployment request says of the deployment behind it: how
far it got, which execution was started and how that one ended.
-/

namespace Rollout

open Dialogue

/-- Calls that set something going or leave something behind. -/
def Call.commits : Call → Bool
  | .startExecution _ _ _ | .append _ _ _ => true
  | _ => false

namespace Api

/-- The answer to a request, given at once or when its deployment has ended. -/
def serve (settings : DeploymentSettings) (polls : Nat) (r : HttpRequest) :
    Program HttpResponse :=
  match route r with
  | .answered response => .done response
  | .deploy request =>
    (Deployment.deploy settings polls request).bind fun result => .done (respond result)

end Api

namespace Journal

/-- The engine has accepted the execution. -/
def Accepted (journal : Journal) (execution : ExecutionArn) : Prop :=
  ∃ grant machine input answer,
    ⟨.call (.startExecution grant machine input), .ok answer⟩ ∈ journal ∧
    answer.execution = execution

/-- An `IN PROGRESS` record was tried, whether or not it was written: a record is the look-up of
its table and the write, so one whose table is not found has been tried as well. -/
def Opened (journal : Journal) : Prop :=
  ∃ grant entry outcome, ⟨.record grant entry, outcome⟩ ∈ journal ∧ entry.status = .inProgress

/-- What the wait for the accepted execution has returned. -/
def Awaited (settings : DeploymentSettings) (polls : Nat) (journal : Journal)
    (returned : Except EngineError CompletedExecution) : Prop :=
  ∃ before grant machine input answer watched after,
    journal = before ++ ⟨.call (.startExecution grant machine input), .ok answer⟩ ::
      (watched.map Exchange.step ++ after) ∧
    (Monitor.awaitCompletion settings.monitor grant answer.execution polls).Ran watched
      (some returned)

/-- The wait has returned an execution that ended otherwise than in success. -/
def EndedBadly (settings : DeploymentSettings) (polls : Nat) (journal : Journal)
    (completed : CompletedExecution) : Prop :=
  Awaited settings polls journal (.ok completed) ∧
    completed.status.isTerminal = true ∧ completed.status ≠ .succeeded

end Journal

open Journal

namespace Api

/-- What the body of a failure says of the run behind it: the execution, once there is one, the
records, once there are any, and how the execution ended, if it was seen to fail. -/
structure BodyTells (settings : DeploymentSettings) (polls : Nat) (journal : Journal)
    (body : Json) : Prop where
  execution : ∀ value, body.field? "executionArn" = some value ↔
    ∃ execution, Accepted journal execution ∧ value = execution.toJson
  audit : (∃ value, body.field? "audit" = some value) ↔ Opened journal
  status : ∀ value, body.field? "status" = some value ↔
    ∃ completed, EndedBadly settings polls journal completed ∧ value = completed.status.toJson
  trace : ∀ value, body.field? "trace" = some value ↔
    ∃ completed, EndedBadly settings polls journal completed ∧
      value = .array (completed.trace.map HistoryEvent.toJson)

/-- What an answer says of the run behind it. -/
structure Tells (settings : DeploymentSettings) (polls : Nat) (journal : Journal) (calls : Trace)
    (response : HttpResponse) : Prop where
  ok : response.status = 200 ↔ ∃ completed outputs,
    Awaited settings polls journal (.ok completed) ∧ completed.status = .succeeded ∧
      Output.aggregateText settings.reserved completed.details.output = .ok outputs
  refused : 400 ≤ response.status → response.status < 500 →
    ∀ x ∈ calls, x.question.commits = false
  failed : response.status ≠ 200 → ∃ body, response.body = some body ∧
    BodyTells settings polls journal body

section Body

variable (e : DeploymentError)

theorem failureBody_execution :
    (failureBody e).field? "executionArn" = e.execution?.map ExecutionArn.toJson := by
  cases e <;> rfl

theorem failureBody_audit :
    (failureBody e).field? "audit" = e.audit?.map AuditReport.toJson := by
  cases e <;> rfl

theorem failureBody_status :
    (failureBody e).field? "status" = (failureDetails e).lookup "status" := by
  cases e <;> rfl

theorem failureBody_trace :
    (failureBody e).field? "trace" = (failureDetails e).lookup "trace" := by
  cases e <;> rfl

theorem statusOf_bounds : 400 ≤ statusOf e := by
  unfold statusOf
  split <;> decide

/-- A fault of the caller is found before anything is recorded. -/
theorem unaudited_of_statusOf (fault : statusOf e < 500) : e.audit? = none := by
  cases e with
  | validation | federation | parameter | catalog => rfl
  | start | execution | monitor | output => simp [statusOf] at fault

theorem failed_of_unaudited (unaudited : e.audit? = none) :
    e.execution? = none ∧ failureDetails e = [] := by
  cases e with
  | validation | federation | parameter | catalog => exact ⟨rfl, rfl⟩
  | start | execution | monitor | output => cases unaudited

end Body

end Api

namespace Deployment

variable {settings : DeploymentSettings} {request : DeploymentRequest} {polls : Nat}
  {journal : Journal} {calls : Trace}

theorem uncommitted_of_prepares {paths : List String} {c : Call} (prepares : c.Prepares paths) :
    c.commits = false := by
  cases c with
  | startExecution | append => cases prepares
  | _ => rfl

/-- Steps that prepare a deployment are calls, and none of them leaves anything behind. -/
theorem uncommitted_of_spelled (spelled : Spelled Step.program journal calls)
    (prepares : ∀ x ∈ journal, ∃ paths, x.question.Prepares paths) :
    ∀ x ∈ calls, x.question.commits = false := by
  induction spelled with
  | nil => simp
  | @cons question answer part rest steps first others ih =>
      have later := ih fun x member => prepares x (List.mem_cons_of_mem _ member)
      obtain ⟨paths, here⟩ := prepares _ List.mem_cons_self
      cases question with
      | call c =>
          obtain ⟨_, rfl, _⟩ := Plan.ran_call.mp first
          simpa [uncommitted_of_prepares here] using later
      | record grant entry => cases here

theorem resolved_prepares {result : Except DeploymentError DeploymentContext}
    (resolved : Resolved settings request journal result) :
    ∀ x ∈ journal, ∃ paths, x.question.Prepares paths := by
  cases resolved with
  | malformed refused => simp
  | unlisted | empty =>
      intro x member
      obtain rfl := List.mem_singleton.mp member
      exact ⟨[], trivial⟩
  | listed prepares early =>
      intro x member
      rcases List.mem_cons.mp member with rfl | member
      · exact ⟨[], trivial⟩
      · exact ⟨_, prepares x member⟩

theorem failed_start_prepares {e : DeploymentError}
    (way : Started settings request journal (.error e)) (unaudited : e.audit? = none) :
    ∀ x ∈ journal, ∃ paths, x.question.Prepares paths := by
  cases way with
  | invalid refused => simp
  | unresolved resolved => exact resolved_prepares resolved
  | unencoded resolved encoded refused => cases unaudited
  | rejected resolved encoded => cases unaudited

/-- The report of a deployment is there once its first record was tried. -/
theorem opened_iff {result : Except DeploymentError DeploymentResult}
    (recorded : FailedEarly journal result ∨ RecordedTwice journal result) :
    Opened journal ↔ ∃ report, report? result = some report := by
  rcases recorded with ⟨quiet, e, rfl, unaudited⟩ |
    ⟨before, during, grant, entry, message, opened, closed, rfl, _, _, opening, report⟩
  · constructor
    · rintro ⟨grant, entry, outcome, member, _⟩
      cases (quiet _ member).1
    · rintro ⟨report, there⟩
      rw [report?, unaudited] at there
      cases there
  · exact ⟨fun _ => ⟨_, report⟩, fun _ => ⟨grant, entry, opened, by simp, opening⟩⟩

/-- A start that fails is not an accepted one. -/
theorem failed_start_unaccepted {e : DeploymentError}
    (way : Started settings request journal (.error e)) (execution : ExecutionArn) :
    ¬ Accepted journal execution := by
  rintro ⟨grant, machine, input, answer, member, _⟩
  cases way with
  | invalid refused => cases member
  | unresolved resolved => cases ((resolved_quiet resolved).1 _ member).2
  | unencoded resolved encoded refused =>
      rcases List.mem_append.mp member with early | late
      · cases ((resolved_quiet resolved).1 _ early).2
      · simp only [List.mem_cons, List.not_mem_nil, or_false] at late
        rcases late with same | same <;> cases same
  | rejected resolved encoded =>
      rcases List.mem_append.mp member with early | late
      · cases ((resolved_quiet resolved).1 _ early).2
      · simp only [List.mem_cons, List.not_mem_nil, or_false] at late
        rcases late with same | same | same <;> cases same

theorem failed_start_bare {e : DeploymentError}
    (way : Started settings request journal (.error e)) :
    e.execution? = none ∧ Api.failureDetails e = [] := by
  cases way with
  | invalid refused => exact ⟨rfl, rfl⟩
  | unresolved resolved => exact Api.failed_of_unaudited e (resolved_quiet resolved).2
  | unencoded resolved encoded refused => exact ⟨rfl, rfl⟩
  | rejected resolved encoded => exact ⟨rfl, rfl⟩

/-- The engine is asked last, and has accepted the execution. -/
theorem start_accepted {started : StartedDeployment}
    (way : Started settings request journal (.ok started)) :
    ∃ before machine input answer, journal = before ++
        [⟨.call (.startExecution started.context.grant machine input), .ok answer⟩] ∧
      answer.execution = started.execution ∧
      ∀ x ∈ before, x.question.asksEngine = false := by
  cases way with
  | @accepted before context inProgress input answer resolved encoded =>
      refine ⟨before ++ [⟨.record context.grant context.entry, inProgress⟩], context.stateMachine,
        input, answer, by simp, rfl, ?_⟩
      intro x member
      rcases List.mem_append.mp member with early | late
      · exact ((resolved_quiet resolved).1 x early).2
      · obtain rfl := List.mem_singleton.mp late
        rfl

theorem awaited_accepted {returned : Except EngineError CompletedExecution}
    (awaited : Awaited settings polls journal returned) :
    ∃ execution, Accepted journal execution := by
  obtain ⟨before, grant, machine, input, answer, watched, after, rfl, _⟩ := awaited
  exact ⟨answer.execution, grant, machine, input, answer, by simp, rfl⟩

section Ended

variable {started : StartedDeployment} {first watched : Journal}
  {returned : Except EngineError CompletedExecution} {grant : Grant} {entry : AuditEntry}
  {closed : AuditOutcome}

/-- Watching and recording start nothing. -/
theorem watched_starts_nothing {outcome : Option (Except EngineError CompletedExecution)}
    (watch : WatchedIn settings started polls watched outcome) {machine input : String}
    {seen : Grant} {answer : StartedExecution} :
    ⟨.call (.startExecution seen machine input), .ok answer⟩ ∉
      watched ++ [⟨.record grant entry, closed⟩] := by
  intro member
  obtain ⟨calls, rfl, watch⟩ := watch
  rcases List.mem_append.mp member with early | late
  · obtain ⟨x, inside, same⟩ := List.mem_map.mp early
    obtain ⟨question, answer⟩ := x
    cases same
    cases Monitor.watched_watches watch _ inside
  · cases List.mem_singleton.mp late

theorem accepted_iff (way : Started settings request first (.ok started))
    (watch : WatchedIn settings started polls watched (some returned)) (execution : ExecutionArn) :
    Accepted (first ++ (watched ++ [⟨.record grant entry, closed⟩])) execution ↔
      started.execution = execution := by
  obtain ⟨before, machine, input, answer, rfl, same, quiet⟩ := start_accepted way
  constructor
  · rintro ⟨seen, machine', input', answer', member, rfl⟩
    rcases List.mem_append.mp member with early | late
    · rcases List.mem_append.mp early with earlier | here
      · cases quiet _ earlier
      · cases List.mem_singleton.mp here
        exact same.symm
    · exact absurd late (watched_starts_nothing watch)
  · rintro rfl
    exact ⟨started.context.grant, machine, input, answer, by simp, same⟩

/-- There is one wait for the execution, and it has returned what the deployment went on with. -/
theorem awaited_iff (way : Started settings request first (.ok started))
    (watch : WatchedIn settings started polls watched (some returned))
    (other : Except EngineError CompletedExecution) :
    Awaited settings polls (first ++ (watched ++ [⟨.record grant entry, closed⟩])) other ↔
      returned = other := by
  have nothing := @watched_starts_nothing settings polls started watched grant entry closed _ watch
  obtain ⟨before, machine, input, answer, rfl, same, quiet⟩ := start_accepted way
  obtain ⟨calls, rfl, watch⟩ := watch
  have ran := Monitor.ran_watch watch
  rw [← same] at ran
  constructor
  · rintro ⟨before', grant', machine', input', answer', calls', after, split, ran'⟩
    -- The accepted start stands in the journal once, so both waits begin behind it.
    rw [List.append_assoc, List.singleton_append,
      List.append_cons_inj_of_notMem (fun early => by cases quiet _ early) nothing] at split
    obtain ⟨_, start, rest⟩ := split
    cases start
    have steps := Plan.ran_ofProgram.mpr ⟨calls, ran, rfl⟩
    have steps' := Plan.ran_ofProgram.mpr ⟨calls', ran', rfl⟩
    exact Option.some.inj (ran_unique steps steps' rest).2
  · rintro rfl
    exact ⟨before, started.context.grant, machine, input, answer, calls,
      [⟨.record grant entry, closed⟩], by simp, ran⟩

end Ended

/-- The fields that say how an execution ended. -/
def endFields (completed : CompletedExecution) : List (String × Json) :=
  [("status", completed.status.toJson), ("trace", .array (completed.trace.map HistoryEvent.toJson))]

/-- The body of a failure goes by how far the deployment got. -/
theorem failure_tells {e : DeploymentError}
    (unsuccessful : ∀ completed outputs, Awaited settings polls journal (.ok completed) →
      completed.status = .succeeded →
      Output.aggregateText settings.reserved completed.details.output ≠ .ok outputs)
    (uncommitted : e.audit? = none → ∀ x ∈ calls, x.question.commits = false)
    (opened : Opened journal ↔ ∃ report, e.audit? = some report)
    (accepted : ∀ execution, Accepted journal execution ↔ e.execution? = some execution)
    (detailed : Api.failureDetails e ≠ [] →
      ∃ completed, EndedBadly settings polls journal completed)
    (badly : ∀ completed, EndedBadly settings polls journal completed →
      Api.failureDetails e = endFields completed) :
    Api.Tells settings polls journal calls (Api.respond (.error e)) := by
  -- Both fields of the end are there together, so one argument does for the two.
  have detail (name : String) (field : CompletedExecution → Json)
      (written : ∀ completed, (endFields completed).lookup name = some (field completed))
      (value : Json) : (Api.failureDetails e).lookup name = some value ↔
        ∃ completed, EndedBadly settings polls journal completed ∧ value = field completed := by
    constructor
    · intro found
      obtain ⟨completed, ended⟩ := detailed fun none_ => by simp [none_] at found
      rw [badly completed ended, written] at found
      exact ⟨completed, ended, (Option.some.inj found).symm⟩
    · rintro ⟨completed, ended, rfl⟩
      rw [badly completed ended, written]
  refine ⟨?ok, fun _ fault => uncommitted (Api.unaudited_of_statusOf e fault), fun _ =>
    ⟨Api.failureBody e, rfl, ?execution, ?audit, ?status, ?trace⟩⟩
  case ok =>
    constructor
    · intro fine
      have bad := Api.statusOf_bounds e
      change Api.statusOf e = 200 at fine
      omega
    · rintro ⟨completed, outputs, awaited, status, output⟩
      exact absurd output (unsuccessful completed outputs awaited status)
  case execution =>
    intro value
    rw [Api.failureBody_execution, Option.map_eq_some_iff]
    simp only [accepted, eq_comm]
  case audit =>
    rw [Api.failureBody_audit, opened]
    cases e.audit? <;> simp
  case status =>
    intro value
    rw [Api.failureBody_status]
    exact detail "status" _ (fun _ => rfl) value
  case trace =>
    intro value
    rw [Api.failureBody_trace]
    exact detail "trace" _ (fun _ => rfl) value

theorem failed_start_tells {e : DeploymentError}
    (way : Started settings request journal (.error e))
    (spelled : Spelled Step.program journal calls)
    (opened : Opened journal ↔ ∃ report, e.audit? = some report) :
    Api.Tells settings polls journal calls (Api.respond (.error e)) := by
  have waits {returned : Except EngineError CompletedExecution} :
      ¬ Awaited settings polls journal returned := by
    intro awaited
    obtain ⟨execution, accepted⟩ := awaited_accepted awaited
    exact failed_start_unaccepted way execution accepted
  obtain ⟨execution, details⟩ := failed_start_bare way
  refine failure_tells (fun _ _ awaited => absurd awaited waits) ?_ opened ?_ ?_ ?_
  · exact fun unaudited => uncommitted_of_spelled spelled (failed_start_prepares way unaudited)
  · intro arn
    simp [failed_start_unaccepted way arn, execution]
  · exact fun some_ => absurd details some_
  · exact fun completed ended => absurd ended.1 waits

/-- Once the execution is accepted, the answer goes by what the wait for it has returned. -/
theorem ended_tells {started : StartedDeployment} {first watched : Journal}
    {returned : Except EngineError CompletedExecution} {grant : Grant} {entry : AuditEntry}
    {closed : AuditOutcome} {e : DeploymentError} {report : AuditReport}
    (way : Started settings request first (.ok started))
    (watch : WatchedIn settings started polls watched (some returned))
    (opened : Opened (first ++ (watched ++ [⟨.record grant entry, closed⟩])) ↔
      ∃ report, e.audit? = some report)
    (audited : e.audit? = some report) (execution : e.execution? = some started.execution)
    (unsuccessful : ∀ completed outputs, returned = .ok completed → completed.status = .succeeded →
      Output.aggregateText settings.reserved completed.details.output ≠ .ok outputs)
    (detailed : Api.failureDetails e ≠ [] →
      ∃ completed, returned = .ok completed ∧ completed.status ≠ .succeeded)
    (badly : ∀ completed, returned = .ok completed → completed.status ≠ .succeeded →
      Api.failureDetails e = endFields completed) :
    Api.Tells settings polls (first ++ (watched ++ [⟨.record grant entry, closed⟩])) calls
      (Api.respond (.error e)) := by
  refine failure_tells ?_ ?_ opened ?_ ?_ ?_
  · intro completed outputs awaited
    exact unsuccessful completed outputs ((awaited_iff way watch _).mp awaited)
  · intro unaudited
    rw [audited] at unaudited
    cases unaudited
  · intro arn
    rw [accepted_iff way watch, execution, Option.some.injEq]
  · intro some_
    obtain ⟨completed, rfl, status⟩ := detailed some_
    have terminal : completed.status.isTerminal = true := by
      obtain ⟨_, _, watching⟩ := watch
      exact Monitor.watched_terminal watching
    exact ⟨completed, (awaited_iff way watch _).mpr rfl, terminal, status⟩
  · rintro completed ⟨awaited, _, status⟩
    exact badly completed ((awaited_iff way watch _).mp awaited) status

theorem plan_tells {result : Except DeploymentError DeploymentResult}
    (ran : (plan settings polls request).Ran journal (some result))
    (spelled : Spelled Step.program journal calls) :
    Api.Tells settings polls journal calls (Api.respond result) := by
  have opened := opened_iff (plan_recorded ran)
  rcases plan_ran ran with ⟨e, same, way⟩ | ⟨first, second, started, rfl, way, completed⟩
  · cases same
    exact failed_start_tells way spelled opened
  · cases completed with
    | unwatched watch =>
        refine ended_tells way watch opened rfl rfl ?_ (absurd rfl) ?_
        · rintro _ _ ⟨⟩
        · rintro _ ⟨⟩
    | @failed watched completed terminal watch status =>
        refine ended_tells way watch opened rfl rfl ?_ (fun _ => ⟨completed, rfl, status⟩) ?_
        · rintro _ _ ⟨⟩ succeeded
          exact absurd succeeded status
        · rintro _ ⟨⟩ _
          rfl
    | unreadable watch status output =>
        refine ended_tells way watch opened rfl rfl ?_ (absurd rfl) ?_
        · rintro _ _ ⟨⟩ _ readable
          rw [readable] at output
          cases output
        · rintro _ ⟨⟩ otherwise
          exact absurd status otherwise
    | @succeeded watched completed terminal outputs watch status output =>
        refine ⟨?_, ?_, ?_⟩
        · exact ⟨fun _ => ⟨completed, outputs, (awaited_iff way watch _).mpr rfl, status, output⟩,
            fun _ => rfl⟩
        · exact fun fault => absurd fault (by decide : ¬ 400 ≤ 200)
        · exact absurd rfl

/-- The answer to a request for a deployment tells how far the deployment got. -/
theorem answer_tells {r : Api.HttpRequest} {response : Api.HttpResponse}
    (decoded : Api.route r = .deploy request)
    (ran : (Api.serve settings polls r).Ran calls (some response)) :
    ∃ journal result, (plan settings polls request).Ran journal (some result) ∧
      Spelled Step.program journal calls ∧ response = Api.respond result ∧
      Api.Tells settings polls journal calls response := by
  unfold Api.serve at ran
  rw [decoded] at ran
  rcases ran_bind.mp ran with ⟨_, absurdity⟩ | ⟨all, rest, result, rfl, deployed, answered⟩
  · cases absurdity
  · obtain ⟨rfl, same⟩ := ran_done.mp answered
    cases same
    obtain ⟨journal, steps, spelled⟩ := Plan.ran_program.mp deployed
    rw [List.append_nil]
    exact ⟨journal, result, steps, spelled, rfl, plan_tells steps spelled⟩

namespace Sample

def document : Json := .object [
  ("environmentRef", .string "dev"), ("repositories", .array [.string "app"]),
  ("actionType", .string "deploy"), ("requester", .object [("name", .string "ada")])]

def httpRequest : Api.HttpRequest :=
  ⟨"POST", "/deploy", some "application/json", document.compact⟩

theorem document_plain : document.Plain 2 := by
  have repositories : Json.Plain 1 (.array (["app"].map .string)) :=
    Json.plain_map .string fun repository _ => .string repository
  have requester : Json.Plain 1 (.object [("name", .string "ada")]) :=
    Json.plain_field "name" (.string "ada")
  refine .object (by decide) ?_
  intro field member
  simp only [List.mem_cons, List.not_mem_nil, or_false] at member
  rcases member with rfl | rfl | rfl | rfl
  · exact .string "dev"
  · exact repositories
  · exact .string "deploy"
  · exact requester

theorem httpRequest_decoded : Api.route httpRequest = .deploy Sample.request := by
  have path : String.ofList (httpRequest.path.toList.takeWhile (· != '?')) = "/deploy" := by
    decide +kernel
  have method : (httpRequest.method != "POST") = false := by decide +kernel
  have json : Api.acceptsJson httpRequest.contentType = true := by decide +kernel
  have front : Doc.readFront httpRequest.body.toList = some (Doc.ofJson document, []) :=
    Doc.readFront_compact document_plain
  have read : Api.requestOf? (Doc.ofJson document) = some Sample.request := rfl
  simp only [Api.route, path, beq_self_eq_true, if_true, Api.deployRoute, method, json,
    Api.readRequest, front, read, List.isEmpty_nil, Bool.false_eq_true, if_false]

/-- A world in which the execution fails. -/
def answerFailing : (c : Call) → c.Answer
  | .describe _ execution => .ok ⟨execution, .failed, .epoch, none, none, none, none⟩
  | c => answer c

end Sample

theorem sample_answer_tells : ∃ calls response journal,
    (Api.serve Sample.settings 1 Sample.httpRequest).Ran calls (some response) ∧
    response.status = 502 ∧ Spelled Step.program journal calls ∧
    Accepted journal ⟨"arn:run"⟩ ∧ Opened journal ∧
    ∃ completed, EndedBadly Sample.settings 1 journal completed := by
  have ran := answered_ran Sample.answerFailing (Api.serve Sample.settings 1 Sample.httpRequest)
  have ends : ∃ report, ((Api.serve Sample.settings 1 Sample.httpRequest).answered
      Sample.answerFailing).2 =
      some (Api.respond (.error (.execution ⟨"arn:run"⟩ .failed [] report))) := by
    unfold Api.serve
    rw [Sample.httpRequest_decoded]
    exact ⟨_, rfl⟩
  obtain ⟨report, same⟩ := ends
  rw [same] at ran
  obtain ⟨journal, _, _, spelled, _, tells⟩ := answer_tells Sample.httpRequest_decoded ran
  have failed : (Api.respond (.error (.execution ⟨"arn:run"⟩ .failed [] report))).status = 502 := rfl
  obtain ⟨body, written, said⟩ := tells.failed (by rw [failed]; decide)
  cases written
  obtain ⟨⟨_⟩, accepted, ⟨⟩⟩ := (said.execution (.string "arn:run")).mp rfl
  obtain ⟨completed, badly, _⟩ := (said.status (.string "FAILED")).mp rfl
  exact ⟨_, _, journal, ran, failed, spelled, accepted, said.audit.mp ⟨_, rfl⟩, completed, badly⟩

end Deployment

end Rollout
