import Rollout.Proofs.Deploying

/-!
Plans that differ only in what became of their records. They take the same steps,
and if their calls are answered alike they learn the same and end alike. A
deployment is alike to itself with any other outcome of its audit writes.
-/

namespace Rollout

open Dialogue

namespace Trace

/-- After the same exchanges the same question gets the same answer. -/
def SameAnswers (first second : Trace) : Prop :=
  ∀ (past : Trace) (question : Call) (one two : question.Answer) (rest others : Trace),
    first = past ++ ⟨question, one⟩ :: rest → second = past ++ ⟨question, two⟩ :: others → one = two

theorem sameAnswers_tail {x : Exchange Call Call.Answer} {first second : Trace}
    (same : SameAnswers (x :: first) (x :: second)) : SameAnswers first second := by
  intro past question one two rest others left right
  exact same (x :: past) question one two rest others (by rw [left]; rfl) (by rw [right]; rfl)

end Trace

def Exchange.call? : Exchange Step Step.Answer → Option (Exchange Call Call.Answer)
  | ⟨.call c, answer⟩ => some ⟨c, answer⟩
  | ⟨.record _ _, _⟩ => none

namespace Journal

/-- The calls that are steps of their own. -/
def calls (journal : Journal) : Trace := journal.filterMap Exchange.call?

@[simp] theorem calls_call (c : Call) (answer : (Step.call c).Answer) (journal : Journal) :
    calls (⟨.call c, answer⟩ :: journal) = ⟨c, answer⟩ :: journal.calls := rfl

@[simp] theorem calls_record (grant : Grant) (entry : AuditEntry)
    (outcome : (Step.record grant entry).Answer) (journal : Journal) :
    calls (⟨.record grant entry, outcome⟩ :: journal) = journal.calls := rfl

end Journal

namespace Plan

variable {α β : Type}

/-- Plans that take the same steps whatever becomes of the records, and end in values that agree.
What a plan would have done with more polls is left open. -/
inductive Alike (agree : α → α → Prop) : Plan α → Plan α → Prop
  | done {one two : α} (same : agree one two) : Alike agree (.done one) (.done two)
  | stopped (p : Plan α) : Alike agree .unfinished p
  | outlived (p : Plan α) : Alike agree p .unfinished
  | call {c : Call} {next other : c.Answer → Plan α}
      (rest : ∀ answer, Alike agree (next answer) (other answer)) :
      Alike agree (.ask (.call c) next) (.ask (.call c) other)
  | record {grant : Grant} {entry : AuditEntry} {next other : AuditOutcome → Plan α}
      (rest : ∀ one two, Alike agree (next one) (other two)) :
      Alike agree (.ask (.record grant entry) next) (.ask (.record grant entry) other)

theorem alike_ofProgram {agree : α → α → Prop} (same : ∀ value, agree value value)
    (p : Program α) : Alike agree (ofProgram p) (ofProgram p) := by
  induction p with
  | done value => exact .done (same value)
  | unfinished => exact .stopped _
  | ask question next ih => exact .call ih

theorem alike_bind {middle : α → α → Prop} {agree : β → β → Prop} {p q : Plan α}
    {f g : α → Plan β} (first : Alike middle p q)
    (second : ∀ one two, middle one two → Alike agree (f one) (g two)) :
    Alike agree (p.bind f) (q.bind g) := by
  induction first with
  | done same => exact second _ _ same
  | stopped q => exact .stopped _
  | outlived p => exact .outlived _
  | call _ ih => exact .call ih
  | record _ ih => exact .record ih

/-- Plans that are alike ask and learn the same as long as calls are answered alike. -/
theorem alike_ran {agree : α → α → Prop} {p q : Plan α} (alike : Alike agree p q)
    {first second : Journal} {one two : α} (ran : p.Ran first (some one))
    (other : q.Ran second (some two)) (same : Trace.SameAnswers first.calls second.calls) :
    first.calls = second.calls ∧ agree one two := by
  induction alike generalizing first second with
  | done agreed =>
      obtain ⟨rfl, left⟩ := ran_done.mp ran
      obtain ⟨rfl, right⟩ := ran_done.mp other
      cases left
      cases right
      exact ⟨rfl, agreed⟩
  | stopped q => exact nomatch (ran_unfinished.mp ran).2
  | outlived p => exact nomatch (ran_unfinished.mp other).2
  | @call c next other_next rest ih =>
      obtain ⟨answer, steps, rfl, following⟩ := ran_ask.mp ran
      obtain ⟨answer', steps', rfl, following'⟩ := ran_ask.mp other
      -- Nothing has been asked so far, so this is where the runs must agree.
      obtain rfl : answer = answer' :=
        same [] c answer answer' (Journal.calls steps) (Journal.calls steps') rfl rfl
      obtain ⟨calls, agreed⟩ := ih answer following following' (Trace.sameAnswers_tail same)
      rw [Journal.calls_call, Journal.calls_call, calls]
      exact ⟨rfl, agreed⟩
  | @record grant entry next other_next rest ih =>
      obtain ⟨answer, steps, rfl, following⟩ := ran_ask.mp ran
      obtain ⟨answer', steps', rfl, following'⟩ := ran_ask.mp other
      -- The two outcomes may differ; they are not among the calls.
      obtain ⟨calls, agreed⟩ := ih answer answer' following following' same
      exact ⟨calls, agreed⟩

end Plan

def DeploymentResult.withoutAudit (result : DeploymentResult) : DeploymentResult :=
  { result with audit := ⟨none, none⟩ }

def DeploymentError.withoutAudit : DeploymentError → DeploymentError
  | .start stateMachine source _ => .start stateMachine source ⟨none, none⟩
  | .execution arn status trace _ => .execution arn status trace ⟨none, none⟩
  | .monitor arn source _ => .monitor arn source ⟨none, none⟩
  | .output arn reason _ => .output arn reason ⟨none, none⟩
  | e => e

namespace Deployment

/-- The same error apart from the report, or values that agree. -/
def SameBut {α : Type} (agree : α → α → Prop) :
    Except DeploymentError α → Except DeploymentError α → Prop
  | .ok one, .ok two => agree one two
  | .error one, .error two => one.withoutAudit = two.withoutAudit
  | _, _ => False

/-- The same start, whatever became of the first record. -/
def SameStart (one two : StartedDeployment) : Prop :=
  ∃ inProgress, two = { one with inProgress }

def SameResult : Except DeploymentError DeploymentResult →
    Except DeploymentError DeploymentResult → Prop :=
  SameBut fun one two => one.withoutAudit = two.withoutAudit

open Plan (Alike alike_bind alike_ofProgram)

theorem andThen_alike {α β : Type} {middle : α → α → Prop} {agree : β → β → Prop}
    {step other : Plan (Except DeploymentError α)}
    {next following : α → Plan (Except DeploymentError β)}
    (first : Alike (SameBut middle) step other)
    (second : ∀ one two, middle one two → Alike (SameBut agree) (next one) (following two)) :
    Alike (SameBut agree) (andThen step next) (andThen other following) := by
  refine alike_bind first ?_
  intro one two same
  cases one with
  | error e =>
      cases two with
      | error f => exact .done same
      | ok value => cases same
  | ok value =>
      cases two with
      | error f => cases same
      | ok found => exact second value found same

theorem sameBut_refl {α : Type} (result : Except DeploymentError α) : SameBut Eq result result := by
  cases result <;> rfl

variable (settings : DeploymentSettings) (request : DeploymentRequest)

theorem federate_alike (provider : Provider) :
    Alike (SameBut Eq) (federate settings request provider)
      (federate settings request provider) := by
  refine alike_bind (alike_ofProgram (fun _ => rfl) _) ?_
  rintro one _ rfl
  exact .done (sameBut_refl _)

theorem parameter_alike (grant : Grant) (path : String) :
    Alike (SameBut Eq) (parameter grant path) (parameter grant path) := by
  refine alike_bind (alike_ofProgram (fun _ => rfl) _) ?_
  rintro one _ rfl
  exact .done (sameBut_refl _)

theorem firstProvider_alike :
    Alike (SameBut Eq) (firstProvider request) (firstProvider request) := by
  unfold firstProvider
  cases EntityRef.parse request.environmentRef with
  | error e => exact .done rfl
  | ok environment =>
      refine .call fun answer => ?_
      match answer with
      | .error _ => exact .done rfl
      | .ok [] => exact .done rfl
      | .ok (_ :: _) => exact .done rfl

theorem resolve_alike :
    Alike (SameBut Eq) (resolve settings request) (resolve settings request) := by
  refine andThen_alike (firstProvider_alike request) ?_
  rintro provider _ rfl
  refine andThen_alike (federate_alike settings request provider) ?_
  rintro grant _ rfl
  refine andThen_alike (parameter_alike grant provider.vpcPath) ?_
  rintro vpcId _ rfl
  refine andThen_alike (parameter_alike grant provider.clusterPath) ?_
  rintro clusterArn _ rfl
  refine andThen_alike (parameter_alike grant settings.stateMachinePath) ?_
  rintro stateMachine _ rfl
  exact .done rfl

theorem rejectStart_alike (context : DeploymentContext) (one two : AuditOutcome)
    (source : EngineError) :
    Alike (SameBut SameStart) (rejectStart context one source) (rejectStart context two source) :=
  .record fun _ _ => .done rfl

theorem startPlan_alike :
    Alike (SameBut SameStart) (startPlan settings request) (startPlan settings request) := by
  unfold startPlan
  cases request.validate with
  | error e => exact .done rfl
  | ok _ =>
      refine andThen_alike (resolve_alike settings request) ?_
      rintro context _ rfl
      refine .record fun one two => ?_
      simp only [startExecution]
      cases (inputOf request context).encoded with
      | error reason => exact rejectStart_alike context one two _
      | ok input =>
          refine .call fun answer => ?_
          cases answer with
          | error source => exact rejectStart_alike context one two source
          | ok answer => exact .done ⟨two, rfl⟩

theorem watch_alike (monitor : MonitorSettings) (grant : Grant) (execution : ExecutionArn)
    (polls more : Nat) (s : Monitor.State) :
    Alike Eq (Plan.ofProgram (Monitor.watch monitor grant execution polls s))
      (Plan.ofProgram (Monitor.watch monitor grant execution more s)) := by
  induction polls generalizing more s with
  | zero => exact .stopped _
  | succ polls ih =>
      cases more with
      | zero => exact .outlived _
      | succ more =>
          simp only [Monitor.watch, bind_monad, Plan.ofProgram, expand_bind]
          refine alike_bind (alike_ofProgram (fun _ => rfl) _) ?_
          rintro result _ rfl
          rcases result with e | completed | next
          · exact .done rfl
          · exact .done rfl
          · exact ih more next

theorem close_alike {one two : StartedDeployment} (same : SameStart one two) (message : String)
    {error : AuditReport → DeploymentError}
    (alike : ∀ report other, (error report).withoutAudit = (error other).withoutAudit) :
    Alike SameResult (close one message error) (close two message error) := by
  obtain ⟨inProgress, rfl⟩ := same
  exact .record fun _ _ => .done (alike _ _)

theorem conclude_alike {one two : StartedDeployment} (same : SameStart one two)
    (completed : CompletedExecution) :
    Alike SameResult (conclude settings one completed) (conclude settings two completed) := by
  obtain ⟨inProgress, rfl⟩ := same
  simp only [conclude]
  by_cases status : completed.status = .succeeded
  · simp only [status, bne_self_eq_false, Bool.false_eq_true, if_false]
    cases Output.aggregateText settings.reserved completed.details.output with
    | error e => exact close_alike ⟨inProgress, rfl⟩ _ fun _ _ => rfl
    | ok outputs => exact .record fun _ _ => .done rfl
  · simp only [bne_iff_ne, ne_eq, status, not_false_eq_true, if_true]
    exact close_alike ⟨inProgress, rfl⟩ _ fun _ _ => rfl

theorem completePlan_alike (polls more : Nat) {one two : StartedDeployment}
    (same : SameStart one two) :
    Alike SameResult (completePlan settings polls one) (completePlan settings more two) := by
  obtain ⟨inProgress, rfl⟩ := same
  refine alike_bind (watch_alike settings.monitor one.context.grant one.execution polls more {}) ?_
  rintro result _ rfl
  cases result with
  | error source => exact close_alike ⟨inProgress, rfl⟩ _ fun _ _ => rfl
  | ok completed => exact conclude_alike settings ⟨inProgress, rfl⟩ completed

theorem plan_alike (polls more : Nat) :
    Alike SameResult (plan settings polls request) (plan settings more request) :=
  andThen_alike (startPlan_alike settings request) fun _ _ same =>
    completePlan_alike settings polls more same

def withoutAudit : Except DeploymentError DeploymentResult →
    Except DeploymentError DeploymentResult
  | .ok result => .ok result.withoutAudit
  | .error e => .error e.withoutAudit

theorem withoutAudit_of_sameResult {one two : Except DeploymentError DeploymentResult}
    (same : SameResult one two) : withoutAudit one = withoutAudit two := by
  cases one with
  | error e =>
      cases two with
      | error f => exact congrArg Except.error same
      | ok result => cases same
  | ok result =>
      cases two with
      | error f => cases same
      | ok other => exact congrArg Except.ok same

end Deployment

end Rollout
