import Rollout.Proofs.Runs

/-!
One audit record: the table is looked up, then a sequence value is drawn and the
record appended. Either may fail, and the outcome says so.
-/

namespace Rollout

open Dialogue

namespace AuditEntry

/-- Where the table of an entry is looked up. -/
def path (entry : AuditEntry) : String := Audit.tablePath entry.platform entry.provider

@[simp] theorem path_withStatus (entry : AuditEntry) (status : AuditStatus) (message : String) :
    (entry.withStatus status message).path = entry.path := rfl

@[simp] theorem status_withStatus (entry : AuditEntry) (status : AuditStatus) (message : String) :
    (entry.withStatus status message).status = status := rfl

end AuditEntry

namespace Audit

/-- The calls of one record, and why nothing was written if nothing was. -/
inductive Written (grant : Grant) (entry : AuditEntry) : Trace → Option String → AuditOutcome → Prop
  | lookupFailed (e : ParameterError) :
      Written grant entry [⟨.parameter grant entry.path, .error e⟩]
        (some e.message) (.failure e.message)
  | noTable (found : Option String) (absent : found.getD "" = "") :
      Written grant entry [⟨.parameter grant entry.path, .ok found⟩]
        (some (ParameterError.notFound entry.path).message)
        (.failure (ParameterError.notFound entry.path).message)
  | rejected (table : String) (named : table ≠ "") (sequence : Int) (e : LedgerError) :
      Written grant entry
        [⟨.parameter grant entry.path, .ok (some table)⟩, ⟨.stamp, sequence⟩,
          ⟨.append grant table (.ofEntry entry sequence), .error e⟩]
        (some e.message) (.failure e.message)
  | written (table : String) (named : table ≠ "") (sequence : Int) :
      Written grant entry
        [⟨.parameter grant entry.path, .ok (some table)⟩, ⟨.stamp, sequence⟩,
          ⟨.append grant table (.ofEntry entry sequence), .ok ()⟩]
        none (.success (AuditRecord.ofEntry entry sequence).id)

variable {grant : Grant} {entry : AuditEntry}

theorem write_ran {table : String} {trace : Trace} {outcome : Option AuditOutcome}
    (ran : (write grant entry table).Ran trace outcome) :
    ∃ sequence answer, trace = [⟨.stamp, sequence⟩,
      ⟨.append grant table (.ofEntry entry sequence), answer⟩] ∧
      outcome = some (match (answer : Except LedgerError Unit) with
        | .error e => .failure e.message
        | .ok () => .success (AuditRecord.ofEntry entry sequence).id) := by
  obtain ⟨sequence, _, rfl, following⟩ := ran_ask.mp ran
  obtain ⟨answer, _, rfl, ended⟩ := ran_ask.mp following
  cases answer with
  | error e =>
      obtain ⟨rfl, rfl⟩ := ran_done.mp ended
      exact ⟨sequence, .error e, rfl, rfl⟩
  | ok _ =>
      obtain ⟨rfl, rfl⟩ := ran_done.mp ended
      exact ⟨sequence, .ok (), rfl, rfl⟩

theorem readParameter_ran {path : String} {trace : Trace}
    {outcome : Option (Except ParameterError String)}
    (ran : (readParameter grant path).Ran trace outcome) :
    ∃ answer, trace = [⟨.parameter grant path, answer⟩] ∧
      outcome = some (match (answer : Except ParameterError (Option String)) with
        | .error e => .error e
        | .ok found => if found.getD "" = "" then .error (.notFound path)
            else .ok (found.getD "")) := by
  obtain ⟨answer, trace, rfl, ended⟩ := ran_ask.mp ran
  refine ⟨answer, ?_⟩
  cases answer with
  | error e =>
      obtain ⟨rfl, rfl⟩ := ran_done.mp ended
      exact ⟨rfl, rfl⟩
  | ok found =>
      cases found with
      | none =>
          obtain ⟨rfl, rfl⟩ := ran_done.mp ended
          exact ⟨rfl, rfl⟩
      | some value =>
          obtain ⟨rfl, rfl⟩ := ran_done.mp ended
          simp

theorem record_ran {trace : Trace} {outcome : Option AuditOutcome}
    (ran : (record grant entry).Ran trace outcome) :
    ∃ reason result, outcome = some result ∧ Written grant entry trace reason result := by
  rcases ran_bind.mp ran with
    ⟨stopped, _⟩ | ⟨first, rest, found, rfl, one, following⟩
  · obtain ⟨_, _, absurdity⟩ := readParameter_ran stopped
    cases absurdity
  · obtain ⟨answer, rfl, same⟩ := readParameter_ran one
    cases same
    cases answer with
    | error e =>
        obtain ⟨rfl, rfl⟩ := ran_done.mp following
        exact ⟨_, _, rfl, .lookupFailed e⟩
    | ok found =>
        by_cases absent : found.getD "" = ""
        · simp only [absent, if_true] at following
          obtain ⟨rfl, rfl⟩ := ran_done.mp following
          exact ⟨_, _, rfl, .noTable found absent⟩
        · simp only [absent, if_false] at following
          obtain ⟨sequence, answer, rfl, rfl⟩ := write_ran following
          cases found with
          | none => exact absurd rfl absent
          | some table =>
              cases answer with
              | error e => exact ⟨_, _, rfl, .rejected table absent sequence e⟩
              | ok _ => exact ⟨_, _, rfl, .written table absent sequence⟩

theorem record_finishes (grant : Grant) (entry : AuditEntry) : (record grant entry).Finishes := by
  intro trace ran
  obtain ⟨_, _, absurdity, _⟩ := record_ran ran
  cases absurdity

end Audit

theorem Step.program_finishes (step : Step) : step.program.Finishes := by
  cases step with
  | call c =>
      intro trace ran
      obtain ⟨_, _, absurdity⟩ := Plan.ran_call.mp ran
      cases absurdity
  | record grant entry => exact Audit.record_finishes grant entry

/-- Every run of the calls of a plan is a run of its steps, spelled out. -/
theorem Plan.ran_program {α : Type} {plan : Plan α} {trace : Trace} {outcome : Option α} :
    plan.program.Ran trace outcome ↔
      ∃ journal, plan.Ran journal outcome ∧ Spelled Step.program journal trace :=
  ran_expand Step.program_finishes

end Rollout
