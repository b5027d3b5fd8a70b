import Rollout.Proofs.EngineRuns
import Rollout.Proofs.ExecutionCourse

/-!
The histories of an engine. Whatever its executions do between each other's steps,
each history is the front of one of three stories, the whole of it once the
execution has ended, and nobody else writes in it.
-/

namespace Rollout.Local

open Time (Instant)

/-- The states an ended execution went through, with the type of its last event: each state
is entered after the one before it was closed, and a map state is closed when all its items
have had their two turns, as failed if one of them has failed. -/
inductive Told (items : List String) : List Mark → String → Prop
  | packageFailed {turns : List (TaskTurn String Unit)} {results : List (Except String Unit)}
      (taken : TakenTurns turns results) (size : results.length = items.length)
      (failed : ¬ Succeeded results) :
      Told items (taskMarks .serializeParameters ++
        mapMarks .packageItems items turns "MapStateFailed") "ExecutionFailed"
  | deployFailed {turns : List (TaskTurn String Unit)} {results : List (Except String Unit)}
      {turns' : List (TaskTurn String Build)} {results' : List (Except String Build)}
      (taken : TakenTurns turns results) (size : results.length = items.length)
      (succeeded : Succeeded results) (taken' : TakenTurns turns' results')
      (size' : results'.length = items.length) (failed : ¬ Succeeded results') :
      Told items (taskMarks .serializeParameters ++
        mapMarks .packageItems items turns "MapStateExited" ++
        mapMarks .deployItems items turns' "MapStateFailed") "ExecutionFailed"
  | succeeded {turns : List (TaskTurn String Unit)} {results : List (Except String Unit)}
      {turns' : List (TaskTurn String Build)} {results' : List (Except String Build)}
      (taken : TakenTurns turns results) (size : results.length = items.length)
      (succeeded : Succeeded results) (taken' : TakenTurns turns' results')
      (size' : results'.length = items.length) (succeeded' : Succeeded results') :
      Told items (taskMarks .serializeParameters ++
        mapMarks .packageItems items turns "MapStateExited" ++
        mapMarks .deployItems items turns' "MapStateExited" ++
        taskMarks .aggregateOutputs) "ExecutionSucceeded"

/-- An event with which an execution ends. -/
def IsEnd (mark : Mark) : Prop := mark.1 = "ExecutionSucceeded" ∨ mark.1 = "ExecutionFailed"

/-- A history as it has to be. -/
structure WellKept (r : Run) : Prop where
  numbered : NumberedFrom 0 r.events
  opens : r.marks.head? = some ("ExecutionStarted", none)
  status : r.description.status = .running ∨ r.description.status = .succeeded ∨
    r.description.status = .failed
  /-- The last event tells the status. -/
  succeeded : r.description.status = .succeeded ↔
    r.marks.getLast?.map Prod.fst = some "ExecutionSucceeded"
  failed : r.description.status = .failed ↔
    r.marks.getLast?.map Prod.fst = some "ExecutionFailed"
  nowhere : ∀ mark ∈ r.marks.dropLast, ¬ IsEnd mark
  told : ∃ states ending, Told r.input.repositories states ending ∧
    r.marks <+: story states ending ∧
    (r.description.status ≠ .running → r.marks = story states ending)

section Stories

variable {items : List String} {states : List Mark} {ending : String}

theorem taskMarks_plain (stage : Stage) : ∀ mark ∈ taskMarks stage, ¬ IsEnd mark := by
  simp [taskMarks, IsEnd]

theorem mapMarks_plain {α : Type} (stage : Stage) (turns : List (TaskTurn String α))
    {closed : String} (open_ : ¬ IsEnd (closed, none)) :
    ∀ mark ∈ mapMarks stage items turns closed, ¬ IsEnd mark := by
  intro mark member
  rcases List.mem_cons.mp member with rfl | later
  · simp [IsEnd]
  rcases List.mem_append.mp later with turned | last
  · obtain ⟨turn, _, rfl⟩ := List.mem_map.mp turned
    cases turn with
    | began position => simp [IsEnd, turnMark]
    | ended position result => cases result <;> simp [IsEnd, turnMark, Run.outcomeType]
  · rw [List.mem_singleton.mp last]
    exact open_

theorem Told.plain (told : Told items states ending) : ∀ mark ∈ states, ¬ IsEnd mark := by
  have exited : ¬ IsEnd ("MapStateExited", none) := by simp [IsEnd]
  have failed : ¬ IsEnd ("MapStateFailed", none) := by simp [IsEnd]
  cases told with
  | packageFailed =>
      exact List.forall_mem_append.mpr ⟨taskMarks_plain _, mapMarks_plain _ _ failed⟩
  | deployFailed =>
      exact List.forall_mem_append.mpr ⟨List.forall_mem_append.mpr
        ⟨taskMarks_plain _, mapMarks_plain _ _ exited⟩, mapMarks_plain _ _ failed⟩
  | succeeded =>
      exact List.forall_mem_append.mpr ⟨List.forall_mem_append.mpr ⟨List.forall_mem_append.mpr
        ⟨taskMarks_plain _, mapMarks_plain _ _ exited⟩, mapMarks_plain _ _ exited⟩,
        taskMarks_plain _⟩

/-- No event of a story before its last one is an end. -/
theorem Told.front_plain (told : Told items states ending) :
    ∀ mark ∈ ("ExecutionStarted", none) :: states, ¬ IsEnd mark := by
  have first : ¬ IsEnd ("ExecutionStarted", none) := by simp [IsEnd]
  exact List.forall_mem_cons.mpr ⟨first, told.plain⟩

/-- How the last event of a story goes with the status of its execution. -/
def Fits (ending : String) (status : ExecutionStatus) : Prop :=
  ending = "ExecutionSucceeded" ∧ status = .succeeded ∨ ending = "ExecutionFailed" ∧ status = .failed

theorem Course.told {input : PipelineInput} {calls : List RunnerCall} {marks : List Mark}
    {d : ExecutionDescription} (course : Course input calls marks d) :
    ∃ states ending, Told input.repositories states ending ∧ marks = story states ending ∧
      Fits ending d.status := by
  cases course with
  | packageFailed taken size first failed =>
      exact ⟨_, _, .packageFailed taken size first.not_succeeded, rfl, .inr ⟨rfl, failed.status⟩⟩
  | deployFailed taken size succeeded taken' size' first failed =>
      exact ⟨_, _, .deployFailed taken size succeeded taken' size' first.not_succeeded, rfl,
        .inr ⟨rfl, failed.status⟩⟩
  | @succeeded _ _ _ builds _ taken size succeeded taken' size' achieved =>
      have whole : (builds.map (Except.ok : Build → Except String Build)).length =
          input.repositories.length := by rw [List.length_map, size']
      exact ⟨_, _, .succeeded taken size succeeded taken' whole (succeeded_map builds), rfl,
        .inl ⟨rfl, achieved.status⟩⟩

end Stories

namespace Run

variable {execution : ExecutionArn} {input : PipelineInput} {opened : Instant} {r : Run}
  {moves : List Move}

/-- A history without an end belongs to a running execution. -/
theorem wellKept_running {states : List Mark} {ending : String}
    (numbered : NumberedFrom 0 r.events) (opens : r.marks.head? = some ("ExecutionStarted", none))
    (running : r.description.status = .running)
    (told : Told r.input.repositories states ending)
    (front : r.marks <+: ("ExecutionStarted", none) :: states) : WellKept r := by
  have plain : ∀ mark ∈ r.marks, ¬ IsEnd mark := fun mark member =>
    told.front_plain mark (front.subset member)
  have open_ : ∀ type, IsEnd (type, none) → r.marks.getLast?.map Prod.fst ≠ some type := by
    intro type ends last
    obtain ⟨mark, here, rfl⟩ := Option.map_eq_some_iff.mp last
    exact plain mark (List.mem_of_getLast? here) ends
  refine ⟨numbered, opens, .inl running, ?_, ?_, ?_, states, ending, told, ?_, ?_⟩
  · simp [running, open_ _ (.inl rfl)]
  · simp [running, open_ _ (.inr rfl)]
  · exact fun mark member => plain mark (List.dropLast_subset _ member)
  · exact front.trans (List.prefix_append _ _)
  · exact fun ended => absurd running ended

/-- A whole story belongs to an execution that has ended the way the story tells. -/
theorem wellKept_ended {states : List Mark} {ending : String}
    (numbered : NumberedFrom 0 r.events) (opens : r.marks.head? = some ("ExecutionStarted", none))
    (told : Told r.input.repositories states ending) (whole : r.marks = story states ending)
    (fits : Fits ending r.description.status) : WellKept r := by
  have last : r.marks.getLast?.map Prod.fst = some ending := by
    rw [whole, story, ← List.cons_append, List.getLast?_concat]
    rfl
  have front : r.marks.dropLast = ("ExecutionStarted", none) :: states := by
    rw [whole, story, ← List.cons_append, List.dropLast_concat]
  refine ⟨numbered, opens, ?_, ?_, ?_, ?_, states, ending, told, ?_, fun _ => whole⟩
  · rcases fits with ⟨_, status⟩ | ⟨_, status⟩
    · exact .inr (.inl status)
    · exact .inr (.inr status)
  · rw [last]
    rcases fits with ⟨rfl, status⟩ | ⟨rfl, status⟩ <;> simp [status]
  · rw [last]
    rcases fits with ⟨rfl, status⟩ | ⟨rfl, status⟩ <;> simp [status]
  · rw [front]
    exact told.front_plain
  · exact whole ▸ List.prefix_rfl

theorem wellKept (went : Went (start execution input opened) moves r) : WellKept r := by
  have numbered := went_numbered went ⟨rfl, trivial⟩
  have opens : r.marks.head? = some ("ExecutionStarted", none) := by
    obtain ⟨later, events⟩ := went_events went
    rw [marks, ← events]
    rfl
  have same : r.input = input := went_input went
  cases ended : r.description.status.isTerminal with
  | true =>
      obtain ⟨states, ending, told, whole, fits⟩ := (course went ended).told
      rw [← same] at told
      exact wellKept_ended numbered opens told whole fits
  | false =>
      -- A run that has not ended is the front of one that has.
      obtain ⟨more, last, went', ended'⟩ := can_end r
      obtain ⟨states, ending, told, whole, fits⟩ := (course (went_append went went') ended').told
      rw [← same] at told
      have shorter := went_ended went' ended ended'
      have front : r.marks <+: ("ExecutionStarted", none) :: states := by
        have grown : r.marks <+: last.marks := (went_events went').map eventMark
        rw [whole, story, ← List.cons_append, List.prefix_concat_iff] at grown
        refine grown.resolve_left fun all => ?_
        have sizes := congrArg List.length (all.trans whole.symm)
        simp only [marks, List.length_map] at sizes
        omega
      have running : r.description.status = .running := by
        simpa [ExecutionStatus.isTerminal] using ended
      exact wellKept_running numbered opens running told front

end Run

namespace Engine

variable {retention : Nat} {started finished : List String} {e next : Engine}
  {execution : String} {step : Step} {now : Instant}

theorem history_window (e : Engine) (arn : ExecutionArn) {run : Run}
    (stored : e.run? arn.text = some run) (max : Nat) :
    ∃ window, e.history arn max = .ok window ∧ window <:+ run.events ∧
      window.length = min max run.events.length := by
  refine ⟨run.events.drop (run.events.length - max), ?_, List.drop_suffix _ _, ?_⟩
  · rw [history, stored]
  · rw [List.length_drop]
    omega

/-- A step of one execution leaves every other one as it is, or evicts it once it has ended. -/
theorem step_apart (kept : Kept retention started finished e)
    (steps : e.step? execution step now = some next) {other : String} {run : Run}
    (apart : other ≠ execution) (stored : e.run? other = some run) :
    next.run? other = some run ∨
      next.run? other = none ∧ run.description.status ≠ .running := by
  obtain ⟨_, moved, _, _, ⟨_, rfl⟩ | ⟨_, rfl⟩⟩ := step_some steps
  · left
    rw [run_store_ne apart, stored]
  · rw [run_retire, run_store_ne apart, stored]
    by_cases gone : other ∈ (e.store execution moved).evicted execution
    · right
      refine ⟨if_pos gone, ?_⟩
      have queued : other ∈ e.finished := by
        have member := List.mem_of_mem_take gone
        exact (List.mem_append.mp member).resolve_right (by simpa using apart)
      rw [kept.queue] at queued
      exact (isTerminal_iff _).mp ((kept.ended other run stored).mpr (List.mem_of_mem_drop queued))
    · exact .inl (if_neg gone)

/-- In every state of an engine its histories are well kept. What is read of them is their end.
A refused start changes nothing at all; neither an accepted one nor a step of another execution
touches what is stored, but for an eviction. -/
theorem histories_kept (reached : Reached retention started finished e) :
    (∀ x run, e.run? x = some run → WellKept run) ∧
    (∀ arn run, e.run? arn.text = some run → ∀ max, ∃ window, e.history arn max = .ok window ∧
      window <:+ run.events ∧ window.length = min max run.events.length) ∧
    (∀ region account stateMachine input id now reason,
      (e.start region account stateMachine input id now).1 = .error reason →
      (e.start region account stateMachine input id now).2 = e) ∧
    (∀ region account stateMachine input id now accepted,
      (e.start region account stateMachine input id now).1 = .ok accepted →
      ∀ y, y ≠ accepted.execution.text →
        (e.start region account stateMachine input id now).2.run? y = e.run? y) ∧
    (∀ x step now next, e.step? x step now = some next →
      ∀ y run, y ≠ x → e.run? y = some run →
        next.run? y = some run ∨ next.run? y = none ∧ run.description.status ≠ .running) := by
  have kept := reached_kept reached
  refine ⟨?_, ?_, ?_, ?_, ?_⟩
  · intro x run stored
    obtain ⟨_, _, _, _, went⟩ := kept.origin x run stored
    exact Run.wellKept went
  · intro arn run stored max
    exact history_window e arn stored max
  · intro region account stateMachine input id now reason refused
    exact start_error refused
  · intro region account stateMachine input id now accepted accepts y apart
    exact start_apart accepts apart
  · intro x step now next steps y run apart stored
    exact step_apart kept steps apart stored

namespace Sample

/-- The second execution ends while the first one deploys; of its repositories one has failed. -/
def turns : List (String × Step) := [
  ("1", .write), ("2", .write), ("2", .wake), ("1", .wake), ("1", .write), ("2", .write),
  ("2", .write), ("2", .write), ("1", .write), ("1", .write),
  ("1", .beginPackage 0), ("2", .beginPackage 1), ("2", .beginPackage 0), ("1", .beginPackage 1),
  ("2", .endPackage 1 (.error "disk full")), ("1", .endPackage 1 (.ok ())),
  ("2", .endPackage 0 (.ok ())), ("2", .leave), ("1", .endPackage 0 (.ok ())), ("2", .write),
  ("1", .leave), ("2", .stop), ("1", .write), ("1", .write), ("1", .beginDeploy 1)].map
    fun turn => ((arn turn.1).text, turn.2)

def interleaved : Option Engine := (both 1).follow? .epoch turns

end Sample

theorem sample_histories_kept : ∃ e run other,
    Reached 1 [(Sample.arn "1").text, (Sample.arn "2").text] [(Sample.arn "2").text] e ∧
    e.run? (Sample.arn "2").text = some run ∧ run.description.cause = some "db: disk full" ∧
    WellKept run ∧
    e.run? (Sample.arn "1").text = some other ∧ other.description.status = .running ∧
    WellKept other ∧
    (∃ window, e.history (Sample.arn "2") 3 = .ok window ∧ window <:+ run.events) ∧
    (e.start Sample.region Sample.account "deploy" Sample.document "3" .epoch).2.run?
      (Sample.arn "2").text = some run := by
  obtain ⟨e, here⟩ := Option.isSome_iff_exists.mp
    (by decide +kernel : Sample.interleaved.isSome = true)
  have reached : Reached 1 _ [(Sample.arn "2").text] e :=
    reached_follow (Sample.both_reached 1) here
  have failed : (Sample.interleaved.bind (·.run? (Sample.arn "2").text)).map
      (·.description.cause) = some (some "db: disk full") := by decide +kernel
  have open_ : (Sample.interleaved.bind (·.run? (Sample.arn "1").text)).map
      (·.description.status) = some .running := by decide +kernel
  rw [here, Option.bind_some, Option.map_eq_some_iff] at failed open_
  obtain ⟨run, stored, cause⟩ := failed
  obtain ⟨other, stored', running⟩ := open_
  obtain ⟨wellKept, read, _, started, _⟩ := histories_kept reached
  obtain ⟨window, told, last, _⟩ := read _ _ stored 3
  have accepts : (e.start Sample.region Sample.account "deploy" Sample.document "3" .epoch).1 =
      .ok ⟨Sample.arn "3", .epoch⟩ := congrArg Prod.fst (Sample.starts e "3" .epoch)
  have apart : (Sample.arn "2").text ≠ (Sample.arn "3").text := by decide +kernel
  have untouched := started _ _ _ _ _ _ _ accepts _ apart
  exact ⟨e, run, other, reached, stored, cause, wellKept _ _ stored, stored', running,
    wellKept _ _ stored', ⟨window, told, last⟩, untouched.trans stored⟩

end Engine

end Rollout.Local
