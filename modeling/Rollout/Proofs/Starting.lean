import Rollout.Local.Engine
import Rollout.Proofs.ObservedSuccess
import Rollout.Proofs.ReadingBack

/-!
What a deployment asks an engine to start, and what the local engine makes of it.
The engine is given a text; the input it reads there is the one the text was
written from.
-/

namespace Rollout

open Dialogue
open Time (Instant)

namespace Deployment

variable {settings : DeploymentSettings} {request : DeploymentRequest} {polls : Nat}
  {journal : Journal} {grant : Grant} {machine text : String}
  {answer : Except EngineError StartedExecution}

theorem started_input {result : Except DeploymentError StartedDeployment}
    (way : Started settings request journal result)
    (member : ⟨.call (.startExecution grant machine text), answer⟩ ∈ journal) :
    ∃ context, context.grant = grant ∧ (inputOf request context).text = text := by
  cases way with
  | invalid refused => cases member
  | unresolved resolved => cases ((resolved_quiet resolved).1 _ member).2
  | unencoded resolved encoded refused => cases encoded
  | rejected resolved encoded =>
      rcases List.mem_append.mp member with early | late
      · cases ((resolved_quiet resolved).1 _ early).2
      · simp only [List.mem_cons, List.not_mem_nil, or_false] at late
        obtain same | same | same := late <;> cases same
        exact ⟨_, rfl, Except.ok.inj encoded⟩
  | accepted resolved encoded =>
      rcases List.mem_append.mp member with early | late
      · cases ((resolved_quiet resolved).1 _ early).2
      · simp only [List.mem_cons, List.not_mem_nil, or_false] at late
        obtain same | same := late <;> cases same
        exact ⟨_, rfl, Except.ok.inj encoded⟩

theorem watchedIn_starts_nothing {started : StartedDeployment}
    {outcome : Option (Except EngineError CompletedExecution)}
    (watch : WatchedIn settings started polls journal outcome) :
    ⟨.call (.startExecution grant machine text), answer⟩ ∉ journal := by
  intro member
  obtain ⟨calls, rfl, watch⟩ := watch
  obtain ⟨⟨question, _⟩, inside, same⟩ := List.mem_map.mp member
  cases same
  cases Monitor.watched_watches watch _ inside

theorem completed_starts_nothing {started : StartedDeployment}
    {outcome : Option (Except DeploymentError DeploymentResult)}
    (completed : Completed settings polls started journal outcome) :
    ⟨.call (.startExecution grant machine text), answer⟩ ∉ journal := by
  intro member
  cases completed with
  | unfinished watch => exact watchedIn_starts_nothing watch member
  | unwatched watch | failed watch | unreadable watch | succeeded watch =>
      rcases List.mem_append.mp member with early | late
      · exact watchedIn_starts_nothing watch early
      · cases List.mem_singleton.mp late

/-- Every start asks for the input the request and the resolved context give. -/
theorem deploy_input {calls : Trace} {outcome : Option (Except DeploymentError DeploymentResult)}
    (ran : (deploy settings polls request).Ran calls outcome)
    (member : ⟨.startExecution grant machine text, answer⟩ ∈ calls) :
    ∃ context, context.grant = grant ∧ (inputOf request context).text = text := by
  obtain ⟨journal, went, spelled⟩ := Plan.ran_program.mp ran
  -- Writing the ledger starts nothing, so the start is a step of the deployment itself.
  have inside := Journal.mem_of_spelled spelled member rfl
  rcases plan_ran went with ⟨e, _, way⟩ | ⟨first, second, started, rfl, way, completed⟩
  · exact started_input way inside
  · rcases List.mem_append.mp inside with early | late
    · exact started_input way early
    · exact absurd late (completed_starts_nothing completed)

end Deployment

namespace Local.Engine

/-- A text written from an input starts an execution with this input. -/
theorem start_written (e : Engine) (region : Region) (account : AccountId) {machine : String}
    (named : (lastSegment machine).isEmpty = false) (input : PipelineInput) (id : String)
    (now : Instant) :
    let execution := executionArn region account (lastSegment machine) id
    e.start region account machine input.text id now =
      (.ok ⟨execution, now⟩, e.store execution.text (.start execution input now)) := by
  have read : PipelineInput.decode.readText input.text = some input :=
    input.returns.readText (by decide)
  have accepted : accept machine input.text = .ok (lastSegment machine, input) := by
    rw [accept, if_neg (by simp [named]), read]
  rw [Engine.start, accepted]

/-- A started execution begins with the input its text was written from. -/
theorem start_text (e : Engine) (region : Region) (account : AccountId) {machine : String}
    (named : (lastSegment machine).isEmpty = false) (input : PipelineInput) (id : String)
    (now : Instant) :
    ∃ started after, e.start region account machine input.text id now = (.ok started, after) ∧
      (after.run? started.execution.text).map Run.input = some input := by
  refine ⟨_, _, start_written e region account named input id now, ?_⟩
  rw [run?, store, lookup_upsert]
  rfl

end Local.Engine

end Rollout
