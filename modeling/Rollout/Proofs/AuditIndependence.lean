import Rollout.Proofs.AlikePlans
import Rollout.Proofs.AuditTrail

/-!
Two runs of one deployment whose answers differ only where records are written:
the table lookup, the sequence and the ledger. Both ask and learn the same
otherwise, and end the same but for the report.
-/

namespace Rollout

open Dialogue

/-- Made for a record, with the name of the table kept at the path. -/
def Call.audits (path : String) : Call → Bool
  | .stamp | .append _ _ _ => true
  | .parameter _ read => read == path
  | _ => false

namespace Trace

def visible (path : String) (calls : Trace) : Trace :=
  calls.filter fun x => !x.question.audits path

def engine (calls : Trace) : Trace := calls.filter fun x => x.question.asksEngine

theorem engine_visible (path : String) (calls : Trace) :
    (calls.visible path).engine = calls.engine := by
  rw [engine, visible, List.filter_filter]
  apply List.filter_congr
  rintro ⟨question, answer⟩ _
  cases question <;> rfl

end Trace

/-- Calls are not made for records, and records go to the table at the path. -/
def Step.Apart (path : String) : Step → Prop
  | .call c => c.audits path = false
  | .record _ entry => entry.path = path

theorem Audit.written_audits {grant : Grant} {entry : AuditEntry} {trace : Trace}
    {reason : Option String} {outcome : AuditOutcome}
    (written : Written grant entry trace reason outcome) :
    ∀ x ∈ trace, x.question.audits entry.path = true := by
  cases written <;> simp [Call.audits]

namespace Journal

def Apart (path : String) (journal : Journal) : Prop := ∀ x ∈ journal, x.question.Apart path

theorem apart_steps {path : String} {calls : Trace}
    (unaudited : ∀ x ∈ calls, x.question.audits path = false) :
    Apart path (calls.map Exchange.step) := by
  intro x member
  obtain ⟨call, asked, rfl⟩ := List.mem_map.mp member
  exact unaudited call asked

theorem visible_spelled {path : String} {journal : Journal} {trace : Trace}
    (spelled : Spelled Step.program journal trace) (apart : Apart path journal) :
    trace.visible path = journal.calls := by
  induction spelled with
  | nil => rfl
  | @cons step answer part rest steps first others ih =>
      obtain ⟨here, later⟩ := List.forall_mem_cons.mp apart
      rw [Trace.visible, List.filter_append]
      have tail : rest.filter (fun x => !x.question.audits path) = calls steps := ih later
      cases step with
      | call c =>
          obtain ⟨_, rfl, same⟩ := Plan.ran_call.mp first
          cases same
          have unaudited : c.audits path = false := here
          simp [unaudited, tail]
      | record grant entry =>
          obtain ⟨reason, outcome, _, written⟩ := Audit.record_ran first
          have table : entry.path = path := here
          -- Every call of a record is filtered out, and the record itself is no call.
          have hidden : part.filter (fun x => !x.question.audits path) = [] := by
            rw [List.filter_eq_nil_iff, ← table]
            intro x member
            simp [Audit.written_audits written x member]
          rw [hidden, tail, calls_record, List.nil_append]

/-- A call that is a step of its own is a call of the run. -/
theorem mem_spelled {journal : Journal} {calls : Trace}
    (spelled : Spelled Step.program journal calls) {x : Exchange Call Call.Answer}
    (member : x.step ∈ journal) : x ∈ calls := by
  induction spelled with
  | nil => cases member
  | @cons step answer part rest steps first others ih =>
      rcases List.mem_cons.mp member with here | later
      · obtain ⟨question, answer⟩ := x
        cases here
        obtain ⟨_, rfl, same⟩ := Plan.ran_call.mp first
        cases same
        exact List.mem_cons_self
      · exact List.mem_append_right part (ih later)

end Journal

namespace Deployment

open Journal

variable {settings : DeploymentSettings} {request : DeploymentRequest} {path : String}

/-- The path is where the provider's audit table is looked up, and no other parameter is there. -/
def TableAt (settings : DeploymentSettings) (path : String) (provider : Provider) : Prop :=
  Audit.tablePath settings.federation.platform provider.providerName = path ∧
    path ∉ readPaths settings provider

def Tabled (settings : DeploymentSettings) (path : String) (journal : Journal) : Prop :=
  ∀ environment provider others,
    ⟨.call (.providers environment), .ok (provider :: others)⟩ ∈ journal →
    TableAt settings path provider

theorem tabled_left {first second : Journal} (table : Tabled settings path (first ++ second)) :
    Tabled settings path first :=
  fun environment provider others member =>
    table environment provider others (List.mem_append_left _ member)

theorem prepares_apart {paths : List String} {step : Step} (prepares : step.Prepares paths)
    (aside : path ∉ paths) : step.Apart path := by
  cases step with
  | record grant entry => cases prepares
  | call c =>
      cases c with
      | parameter grant read =>
          have different : read ≠ path := by
            rintro rfl
            exact aside prepares
          exact beq_eq_false_iff_ne.mpr different
      | _ => first | rfl | cases prepares

theorem watches_unaudited {c : Call} (watches : c.watches = true) : c.audits path = false := by
  cases c <;> first | rfl | cases watches

theorem resolved_apart {journal : Journal} {result : Except DeploymentError DeploymentContext}
    (resolved : Resolved settings request journal result)
    (table : Tabled settings path journal) :
    Apart path journal ∧ ∀ context, result = .ok context → context.entry.path = path := by
  cases resolved with
  | malformed refused => exact ⟨by simp [Apart], fun _ absurdity => nomatch absurdity⟩
  | unlisted =>
      refine ⟨?_, fun _ absurdity => nomatch absurdity⟩
      simp [Apart, Step.Apart, Call.audits]
  | empty =>
      refine ⟨?_, fun _ absurdity => nomatch absurdity⟩
      simp [Apart, Step.Apart, Call.audits]
  | @listed environment provider others after result prepares early =>
      obtain ⟨kept, aside⟩ := table environment provider others List.mem_cons_self
      refine ⟨List.forall_mem_cons.mpr ⟨rfl, fun x member =>
        prepares_apart (prepares x member) aside⟩, ?_⟩
      rintro context rfl
      have same : context.entry = entryOf settings request provider context.grant := early
      rw [same]
      exact kept

theorem started_apart {journal : Journal} {result : Except DeploymentError StartedDeployment}
    (way : Started settings request journal result)
    (table : Tabled settings path journal) :
    Apart path journal ∧ ∀ started, result = .ok started → started.context.entry.path = path := by
  cases way with
  | invalid refused => exact ⟨by simp [Apart], fun _ absurdity => nomatch absurdity⟩
  | unresolved resolved =>
      exact ⟨(resolved_apart resolved table).1, fun _ absurdity => nomatch absurdity⟩
  | unencoded resolved encoded refused =>
      obtain ⟨apart, entry⟩ := resolved_apart resolved (tabled_left table)
      refine ⟨List.forall_mem_append.mpr ⟨apart, ?_⟩, fun _ absurdity => nomatch absurdity⟩
      simp [Step.Apart, entry]
  | rejected resolved encoded =>
      obtain ⟨apart, entry⟩ := resolved_apart resolved (tabled_left table)
      refine ⟨List.forall_mem_append.mpr ⟨apart, ?_⟩, fun _ absurdity => nomatch absurdity⟩
      simp [Step.Apart, Call.audits, entry]
  | accepted resolved encoded =>
      obtain ⟨apart, entry⟩ := resolved_apart resolved (tabled_left table)
      refine ⟨List.forall_mem_append.mpr ⟨apart, by simp [Step.Apart, Call.audits, entry]⟩, ?_⟩
      rintro _ ⟨⟩
      exact entry _ rfl

theorem completed_apart {polls : Nat} {started : StartedDeployment} {journal : Journal}
    {outcome : Option (Except DeploymentError DeploymentResult)}
    (way : Completed settings polls started journal outcome)
    (entry : started.context.entry.path = path) : Apart path journal := by
  have steps : ∀ {watched : Journal} {ended : Option (Except EngineError CompletedExecution)},
      WatchedIn settings started polls watched ended → Apart path watched := by
    rintro _ ended ⟨calls, rfl, watch⟩
    exact apart_steps fun x member => watches_unaudited (Monitor.watched_watches watch x member)
  cases way with
  | unfinished watch => exact steps watch
  | unwatched watch =>
      exact List.forall_mem_append.mpr ⟨steps watch, by simp [Step.Apart, entry]⟩
  | failed watch status =>
      exact List.forall_mem_append.mpr ⟨steps watch, by simp [Step.Apart, entry]⟩
  | unreadable watch status output =>
      exact List.forall_mem_append.mpr ⟨steps watch, by simp [Step.Apart, entry]⟩
  | succeeded watch status output =>
      exact List.forall_mem_append.mpr ⟨steps watch, by simp [Step.Apart, entry]⟩

theorem plan_apart {polls : Nat} {journal : Journal}
    {outcome : Option (Except DeploymentError DeploymentResult)}
    (ran : (plan settings polls request).Ran journal outcome)
    (table : Tabled settings path journal) :
    Apart path journal := by
  rcases plan_ran ran with ⟨e, _, way⟩ | ⟨first, second, started, rfl, way, completed⟩
  · exact (started_apart way table).1
  · obtain ⟨apart, entry⟩ := started_apart way (tabled_left table)
    exact List.forall_mem_append.mpr ⟨apart, completed_apart completed (entry started rfl)⟩

end Deployment

theorem Audit.written_failure {grant : Grant} {entry : AuditEntry} {trace : Trace}
    {reason : Option String} {outcome : AuditOutcome}
    (written : Written grant entry trace reason outcome) (write : String) :
    AuditReport.failure? write (some outcome) = reason.map (AuditFailure.mk write) := by
  cases written <;> rfl

namespace Journal

/-- The two records of a run, the calls each was written with, and the report that lists those
that were not written. -/
def WritesReported (journal : Journal) (trace : Trace) (report : AuditReport) : Prop :=
  ∃ (grant : Grant) (entry closing : AuditEntry) (opened closed : AuditOutcome)
    (before first during second : Trace) (reason other : Option String),
    journal.filter (·.question.isRecord) =
      [⟨.record grant entry, opened⟩, ⟨.record grant closing, closed⟩] ∧
    trace = before ++ first ++ during ++ second ∧
    Audit.Written grant entry first reason opened ∧
    Audit.Written grant closing second other closed ∧
    entry.status = .inProgress ∧
    report.failures = (reason.map (AuditFailure.mk "IN PROGRESS")).toList ++
      (other.map (AuditFailure.mk "terminal")).toList

theorem filter_unrecorded {journal : Journal} (unrecorded : Unrecorded journal) :
    journal.filter (·.question.isRecord) = [] := by
  rw [List.filter_eq_nil_iff]
  intro x member
  simp [unrecorded x member]

theorem writes_reported {journal : Journal} {trace : Trace} {report : AuditReport}
    {result : Except DeploymentError DeploymentResult} (recorded : RecordedTwice journal result)
    (spelled : Spelled Step.program journal trace)
    (reported : Deployment.report? result = some report) : WritesReported journal trace report := by
  obtain ⟨before, during, grant, entry, message, opened, closed, rfl, quiet, unrecorded, status,
    same⟩ := recorded
  obtain rfl := Option.some.inj (reported.symm.trans same)
  obtain ⟨front, second, rfl, front_spelled, second_spelled⟩ := spelled_append.mp spelled
  obtain ⟨first, rest, rfl, first_spelled, rest_spelled⟩ := spelled_append.mp front_spelled
  obtain _ | @⟨_, _, part, tail, _, opening, others⟩ := rest_spelled
  obtain ⟨reason, _, one, written⟩ := Audit.record_ran opening
  have ending := spelled_singleton.mp second_spelled
  obtain ⟨other, _, two, rewritten⟩ := Audit.record_ran ending
  cases one
  cases two
  refine ⟨grant, entry, _, opened, closed, first, part, tail, second, reason, other, ?_, ?_,
    written, rewritten, status, ?_⟩
  · have early : Unrecorded before := fun x member => (quiet x member).1
    rw [List.filter_append, List.filter_append, filter_unrecorded early, List.filter_cons,
      filter_unrecorded unrecorded]
    rfl
  · simp
  · have failed := Audit.written_failure written "IN PROGRESS"
    have lost := Audit.written_failure rewritten "terminal"
    cases reason <;> cases other <;> simp [AuditReport.failures, failed, lost]

end Journal

namespace Deployment

/-- In every provider list of the run the first has its table at the path. -/
def Aside (settings : DeploymentSettings) (path : String) (calls : Trace) : Prop :=
  ∀ environment provider others,
    ⟨.providers environment, .ok (provider :: others)⟩ ∈ calls → TableAt settings path provider

variable {settings : DeploymentSettings} {request : DeploymentRequest}

theorem visible_steps {polls : Nat} {path : String} {calls : Trace} {journal : Journal}
    {outcome : Option (Except DeploymentError DeploymentResult)}
    (ran : (plan settings polls request).Ran journal outcome)
    (spelled : Spelled Step.program journal calls) (aside : Aside settings path calls) :
    calls.visible path = journal.calls := by
  refine Journal.visible_spelled spelled (plan_apart ran ?_)
  intro environment provider others member
  have asked : Exchange.step ⟨.providers environment, .ok (provider :: others)⟩ ∈ journal := member
  exact aside environment provider others (Journal.mem_spelled spelled asked)

/-- Two runs whose answers differ at most in the ledger, its sequence and the lookup of the table
ask the engine the same and end the same but for the report. Every report lists the writes that
failed, in their order. -/
theorem audit_only_reported (settings : DeploymentSettings) (request : DeploymentRequest) :
    (∀ {polls more : Nat} {path : String} {first second : Trace}
        {one two : Except DeploymentError DeploymentResult},
      (deploy settings polls request).Ran first (some one) →
      (deploy settings more request).Ran second (some two) →
      Aside settings path (first ++ second) →
      Trace.SameAnswers (first.visible path) (second.visible path) →
      first.visible path = second.visible path ∧ first.engine = second.engine ∧
        withoutAudit one = withoutAudit two) ∧
    ∀ {polls : Nat} {calls : Trace} {result : Except DeploymentError DeploymentResult}
        {report : AuditReport},
      (deploy settings polls request).Ran calls (some result) →
      report? result = some report →
      ∃ journal, (plan settings polls request).Ran journal (some result) ∧
        Spelled Step.program journal calls ∧ Journal.WritesReported journal calls report := by
  constructor
  · intro polls more path first second one two ran other aside same
    obtain ⟨journal, steps, spelled⟩ := Plan.ran_program.mp ran
    obtain ⟨others, other_steps, other_spelled⟩ := Plan.ran_program.mp other
    have left := visible_steps steps spelled fun environment provider rest member =>
      aside environment provider rest (List.mem_append_left _ member)
    have right := visible_steps other_steps other_spelled fun environment provider rest member =>
      aside environment provider rest (List.mem_append_right _ member)
    rw [left, right] at same
    obtain ⟨calls, agreed⟩ :=
      Plan.alike_ran (plan_alike settings request polls more) steps other_steps same
    have visible : first.visible path = second.visible path := by rw [left, right, calls]
    refine ⟨visible, ?_, withoutAudit_of_sameResult agreed⟩
    rw [← Trace.engine_visible path first, visible, Trace.engine_visible]
  · intro polls calls result report ran reported
    obtain ⟨journal, steps, spelled⟩ := Plan.ran_program.mp ran
    rcases plan_recorded steps with ⟨_, e, rfl, unaudited⟩ | recorded
    · cases unaudited.symm.trans reported
    · exact ⟨journal, steps, spelled, Journal.writes_reported recorded spelled reported⟩

/-- A world where nothing goes wrong but the ledger, which takes no record. -/
def Sample.answerWithoutLedger : (c : Call) → c.Answer
  | .append _ table _ => .error ⟨table, "throttled"⟩
  | c => Sample.answer c

theorem sample_ledger_outage :
    ∃ (first second : Trace) (one two : DeploymentResult),
      (deploy Sample.settings 1 Sample.request).Ran first (some (.ok one)) ∧
      (deploy Sample.settings 1 Sample.request).Ran second (some (.ok two)) ∧
      one.audit.failures = [] ∧ two.audit.failures.map (·.write) = ["IN PROGRESS", "terminal"] ∧
      first.engine = second.engine ∧ withoutAudit (.ok one) = withoutAudit (.ok two) := by
  let path := Audit.tablePath "opa" "east"
  have ran := answered_ran Sample.answer (deploy Sample.settings 1 Sample.request)
  have other := answered_ran Sample.answerWithoutLedger (deploy Sample.settings 1 Sample.request)
  have ends : ∃ one, ((deploy Sample.settings 1 Sample.request).answered Sample.answer).2 =
      some (.ok one) ∧ one.audit.failures = [] := ⟨_, rfl, rfl⟩
  have fails : ∃ two, ((deploy Sample.settings 1 Sample.request).answered
      Sample.answerWithoutLedger).2 = some (.ok two) ∧
      two.audit.failures.map (·.write) = ["IN PROGRESS", "terminal"] := ⟨_, rfl, rfl⟩
  obtain ⟨one, same, none⟩ := ends
  obtain ⟨two, fallen, both⟩ := fails
  rw [same] at ran
  rw [fallen] at other
  have table : TableAt Sample.settings path Sample.provider := ⟨rfl, by decide +kernel⟩
  have aside : Aside Sample.settings path
      (((deploy Sample.settings 1 Sample.request).answered Sample.answer).1 ++
        ((deploy Sample.settings 1 Sample.request).answered Sample.answerWithoutLedger).1) := by
    intro environment provider others member
    rcases List.mem_append.mp member with early | late
    · cases answered_mem early
      exact table
    · cases answered_mem late
      exact table
  have answers : Trace.SameAnswers
      (Trace.visible path ((deploy Sample.settings 1 Sample.request).answered Sample.answer).1)
      (Trace.visible path ((deploy Sample.settings 1 Sample.request).answered
        Sample.answerWithoutLedger).1) := by
    intro past question a b rest others left right
    have asked : (⟨question, a⟩ : Exchange Call Call.Answer) ∈ past ++ ⟨question, a⟩ :: rest := by
      simp
    have again : (⟨question, b⟩ : Exchange Call Call.Answer) ∈ past ++ ⟨question, b⟩ :: others := by
      simp
    rw [← left] at asked
    rw [← right] at again
    obtain ⟨asked, seen⟩ := List.mem_filter.mp asked
    have first := answered_mem asked
    have second := answered_mem (List.mem_filter.mp again).1
    cases question <;> first | exact first.trans second.symm | cases seen
  obtain ⟨_, engine, results⟩ :=
    (audit_only_reported Sample.settings Sample.request).1 ran other aside answers
  exact ⟨_, _, one, two, ran, other, none, both, engine, results⟩

end Deployment

end Rollout
