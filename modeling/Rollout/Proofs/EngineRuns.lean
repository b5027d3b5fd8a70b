import Rollout.Local.Engine
import Rollout.Proofs.Entries
import Rollout.Proofs.ExecutionSteps

/-!
The states an engine can come to, with everything started and everything ended on
the way. In each of them the stored executions, the queue of the ended ones and
that past agree.
-/

namespace Rollout.Local

open Time (Instant)

namespace Engine

/-- The states of an engine that keeps so many ended executions: executions are started
under identifiers of their own and make their steps, in any interleaving. The first list
holds what was started so far, the second what has ended, oldest first. -/
inductive Reached (retention : Nat) : List String → List String → Engine → Prop
  | fresh : Reached retention [] [] { retention }
  | start {started finished : List String} {e next : Engine} {region : Region}
      {account : AccountId} {stateMachine input id : String} {now : Instant}
      {accepted : StartedExecution} (before : Reached retention started finished e)
      (plain : ':' ∉ id.toList) (unused : ∀ known ∈ started, lastSegment known ≠ id)
      (starts : e.start region account stateMachine input id now = (.ok accepted, next)) :
      Reached retention (started ++ [accepted.execution.text]) finished next
  | refused {started finished : List String} {e next : Engine} {region : Region}
      {account : AccountId} {stateMachine input id : String} {now : Instant}
      {reason : EngineError} (before : Reached retention started finished e)
      (starts : e.start region account stateMachine input id now = (.error reason, next)) :
      Reached retention started finished next
  | step {started finished : List String} {e next : Engine} {execution : String} {step : Step}
      {now : Instant} (before : Reached retention started finished e) (goes : step ≠ .stop)
      (steps : e.step? execution step now = some next) : Reached retention started finished next
  | stop {started finished : List String} {e next : Engine} {execution : String} {now : Instant}
      (before : Reached retention started finished e)
      (steps : e.step? execution .stop now = some next) :
      Reached retention started (finished ++ [execution]) next

theorem lastSegment_append {front id : String} (plain : ':' ∉ id.toList) :
    lastSegment (front ++ ":" ++ id) = id := by
  have colon : ":".toList = [':'] := rfl
  have inside : ∀ c ∈ id.toList.reverse, (c != ':') = true := by
    intro c member
    rw [bne_iff_ne]
    rintro rfl
    exact plain (List.mem_reverse.mp member)
  have backwards : (front.toList ++ [':'] ++ id.toList).reverse =
      id.toList.reverse ++ ':' :: front.toList.reverse := by simp
  rw [lastSegment, String.toList_append, String.toList_append, colon, backwards,
    List.takeWhile_append_of_pos inside, List.takeWhile_cons_of_neg (by simp), List.append_nil,
    List.reverse_reverse, String.ofList_toList]

section Steps

variable {e next : Engine} {execution : String} {step : Step} {now : Instant} {run : Run}

/-- A step of one execution, as the engine stores it. -/
theorem step_some (steps : e.step? execution step now = some next) :
    ∃ run moved, e.run? execution = some run ∧ run.step? step now = some moved ∧
      (step ≠ .stop ∧ next = e.store execution moved ∨
        step = .stop ∧ next = (e.store execution moved).retire execution) := by
  simp only [step?, Option.bind_eq_bind, Option.bind_eq_some_iff] at steps
  obtain ⟨run, stored, moved, moves, same⟩ := steps
  refine ⟨run, moved, stored, moves, ?_⟩
  cases step <;> cases same <;> simp

theorem step_of_run {moved : Run} (stored : e.run? execution = some run)
    (moves : run.step? step now = some moved) (goes : step ≠ .stop) :
    e.step? execution step now = some (e.store execution moved) := by
  simp only [step?, stored, moves, Option.bind_eq_bind, Option.bind_some]

theorem stop_of_run {moved : Run} (stored : e.run? execution = some run)
    (moves : run.step? .stop now = some moved) :
    e.step? execution .stop now = some ((e.store execution moved).retire execution) := by
  simp only [step?, stored, moves, Option.bind_eq_bind, Option.bind_some]

/-- A start that goes well stores a new execution and nothing else. -/
theorem start_some {region : Region} {account : AccountId} {stateMachine input id : String}
    {accepted : StartedExecution}
    (starts : e.start region account stateMachine input id now = (.ok accepted, next)) :
    ∃ name document, accepted.execution = executionArn region account name id ∧
      next = e.store accepted.execution.text (.start accepted.execution document now) := by
  unfold start at starts
  split at starts
  · cases starts
  · rename_i name document _
    cases starts
    exact ⟨name, document, rfl, rfl⟩

/-- A refused start changes nothing. -/
theorem start_error {region : Region} {account : AccountId} {stateMachine input id : String}
    {reason : EngineError}
    (starts : (e.start region account stateMachine input id now).1 = .error reason) :
    (e.start region account stateMachine input id now).2 = e := by
  unfold start at starts ⊢
  split at starts
  · rfl
  · cases starts

theorem run_store : (e.store execution run).run? execution = some run := lookup_upsert

theorem run_store_ne {other : String} (apart : other ≠ execution) :
    (e.store execution run).run? other = e.run? other := lookup_upsert_ne apart

/-- A start that goes well touches no other execution. -/
theorem start_apart {region : Region} {account : AccountId} {stateMachine input id : String}
    {accepted : StartedExecution}
    (accepts : (e.start region account stateMachine input id now).1 = .ok accepted)
    {other : String} (apart : other ≠ accepted.execution.text) :
    (e.start region account stateMachine input id now).2.run? other = e.run? other := by
  cases start : e.start region account stateMachine input id now with
  | mk answer next =>
      rw [start] at accepts
      obtain rfl : answer = .ok accepted := accepts
      obtain ⟨_, _, _, rfl⟩ := start_some start
      exact run_store_ne apart

theorem stored_store {other : String} : (∃ found, (e.store execution run).run? other = some found) ↔
    other = execution ∨ ∃ found, e.run? other = some found := by
  by_cases same : other = execution
  · subst same
    simp [run_store]
  · simp [run_store_ne same, same]

theorem found_store {other : String} {found : Run}
    (stored : (e.store execution run).run? other = some found) :
    other = execution ∧ found = run ∨ other ≠ execution ∧ e.run? other = some found := by
  by_cases same : other = execution
  · subst same
    rw [run_store] at stored
    exact .inl ⟨rfl, (Option.some.inj stored).symm⟩
  · rw [run_store_ne same] at stored
    exact .inr ⟨same, stored⟩

/-- What falls out of the queue when one more execution ends. -/
def evicted (e : Engine) (execution : String) : List String :=
  (e.finished ++ [execution]).take ((e.finished ++ [execution]).length - e.limit)

theorem run_retire {other : String} : (e.retire execution).run? other =
    if other ∈ e.evicted execution then none else e.run? other := lookup_filter _

end Steps

/-- The last so many of a list, after one more. -/
theorem drop_snoc {α : Type} (limit : Nat) (front : List α) (last : α) :
    (front.drop (front.length - limit) ++ [last]).drop
        ((front.drop (front.length - limit) ++ [last]).length - limit) =
      (front ++ [last]).drop ((front ++ [last]).length - limit) := by
  have within : front.length - limit ≤ front.length := Nat.sub_le _ _
  rw [← List.drop_append_of_le_length within, List.drop_drop]
  congr 1
  simp only [List.length_drop, List.length_append, List.length_singleton]
  omega

/-- How the stored executions, the queue and the past of an engine agree. -/
structure Kept (retention : Nat) (started finished : List String) (e : Engine) : Prop where
  setting : e.retention = retention
  keys : (e.executions.map Prod.fst).Nodup
  queue : e.finished = finished.drop (finished.length - max 1 retention)
  once : finished.Nodup
  begun : ∀ x ∈ finished, x ∈ started
  stored : ∀ x, (∃ run, e.run? x = some run) ↔ x ∈ started ∧ (x ∈ finished → x ∈ e.finished)
  ended : ∀ x run, e.run? x = some run → (run.description.status.isTerminal = true ↔ x ∈ finished)
  origin : ∀ x run, e.run? x = some run → ∃ execution input opened moves,
    Run.Went (.start execution input opened) moves run

section Invariant

variable {retention : Nat} {started finished : List String} {e next : Engine}
  {execution : String} {step : Step} {now : Instant}

theorem kept_fresh : Kept retention [] [] { retention } where
  setting := rfl
  keys := List.nodup_nil
  queue := by simp
  once := List.nodup_nil
  begun := by simp
  stored := by simp [run?]
  ended := by simp [run?]
  origin := by simp [run?]

theorem kept_start {region : Region} {account : AccountId} {stateMachine input id : String}
    {accepted : StartedExecution} (kept : Kept retention started finished e)
    (plain : ':' ∉ id.toList) (unused : ∀ known ∈ started, lastSegment known ≠ id)
    (starts : e.start region account stateMachine input id now = (.ok accepted, next)) :
    Kept retention (started ++ [accepted.execution.text]) finished next := by
  obtain ⟨name, document, named, rfl⟩ := start_some starts
  have new : accepted.execution.text ∉ started := by
    intro member
    apply unused _ member
    rw [named]
    exact lastSegment_append plain
  have open_ : accepted.execution.text ∉ finished := fun member => new (kept.begun _ member)
  refine ⟨kept.setting, nodup_upsert kept.keys, kept.queue, kept.once, ?_, ?_, ?_, ?_⟩
  · intro x member
    exact List.mem_append_left _ (kept.begun x member)
  · intro x
    rw [stored_store, kept.stored, List.mem_append, List.mem_singleton]
    constructor
    · rintro (rfl | ⟨known, queued⟩)
      · exact ⟨.inr rfl, fun member => absurd member open_⟩
      · exact ⟨.inl known, queued⟩
    · rintro ⟨known | rfl, queued⟩
      · exact .inr ⟨known, queued⟩
      · exact .inl rfl
  · intro x run found
    rcases found_store found with ⟨rfl, rfl⟩ | ⟨_, earlier⟩
    · constructor
      · intro terminal
        cases terminal
      · intro member
        exact absurd member open_
    · exact kept.ended x run earlier
  · intro x run found
    rcases found_store found with ⟨rfl, rfl⟩ | ⟨_, earlier⟩
    · exact ⟨_, _, _, _, .stay _⟩
    · exact kept.origin x run earlier

theorem kept_step (kept : Kept retention started finished e) (goes : step ≠ .stop)
    (steps : e.step? execution step now = some next) : Kept retention started finished next := by
  obtain ⟨run, moved, stored, moves, ⟨_, rfl⟩ | ⟨stops, _⟩⟩ := step_some steps
  · have same := Run.stepped_description (Run.step_some moves) goes
    refine ⟨kept.setting, nodup_upsert kept.keys, kept.queue, kept.once, kept.begun, ?_, ?_, ?_⟩
    · intro x
      refine stored_store.trans (Iff.trans ?_ (kept.stored x))
      constructor
      · rintro (rfl | already)
        · exact ⟨run, stored⟩
        · exact already
      · exact .inr
    · intro x found here
      rcases found_store here with ⟨rfl, rfl⟩ | ⟨_, earlier⟩
      · rw [same]
        exact kept.ended x run stored
      · exact kept.ended x found earlier
    · intro x found here
      rcases found_store here with ⟨rfl, rfl⟩ | ⟨_, earlier⟩
      · obtain ⟨_, _, _, _, went⟩ := kept.origin x run stored
        exact ⟨_, _, _, _, Run.went_snoc went moves⟩
      · exact kept.origin x found earlier
  · exact absurd stops goes

theorem found_retire {other : String} {found : Run}
    (here : (e.retire execution).run? other = some found) :
    other ∉ e.evicted execution ∧ e.run? other = some found := by
  rw [run_retire] at here
  split at here
  · cases here
  · rename_i kept
    exact ⟨kept, here⟩

/-- One more end evicts just what it pushes out of the queue. -/
theorem stored_stop {run : Run} (kept : Kept retention started finished e)
    (once : (finished ++ [execution]).Nodup) (known : execution ∈ started) (x : String) :
    (∃ found, ((e.store execution run).retire execution).run? x = some found) ↔
      x ∈ started ∧ (x ∈ finished ++ [execution] →
        x ∈ ((e.store execution run).retire execution).finished) := by
  have whole : e.evicted execution ++ ((e.store execution run).retire execution).finished =
      e.finished ++ [execution] := List.take_append_drop _ _
  generalize ((e.store execution run).retire execution).finished = queue at whole ⊢
  -- What falls out and what stays share nothing, since no execution ends twice.
  have parted : (e.evicted execution ++ queue).Nodup := by
    rw [whole, kept.queue, ← List.drop_append_of_le_length (Nat.sub_le _ _)]
    exact once.sublist (List.drop_sublist _ _)
  have covers : x ∈ e.evicted execution ∨ x ∈ queue ↔ x ∈ e.finished ∨ x = execution := by
    rw [← List.mem_append, whole, List.mem_append, List.mem_singleton]
  have ended : x ∈ e.finished → x ∈ finished := by
    rw [kept.queue]
    exact List.mem_of_mem_drop
  rw [List.mem_append, List.mem_singleton]
  constructor
  · rintro ⟨found, here⟩
    obtain ⟨left, found'⟩ := found_retire here
    have whence := stored_store.mp ⟨found, found'⟩
    constructor
    · rcases whence with rfl | earlier
      · exact known
      · exact ((kept.stored x).mp earlier).1
    · intro past
      have queued : x ∈ e.finished ∨ x = execution := by
        rcases whence with same | earlier
        · exact .inr same
        · exact past.imp_left ((kept.stored x).mp earlier).2
      exact (covers.mpr queued).resolve_left left
  · rintro ⟨begun, queued⟩
    have left : x ∉ e.evicted execution := by
      intro gone
      have past := (covers.mp (.inl gone)).imp_left ended
      exact List.disjoint_of_nodup_append parted gone (queued past)
    rw [run_retire]
    change ∃ found, (if x ∈ e.evicted execution then none else _) = some found
    rw [if_neg left, stored_store]
    by_cases same : x = execution
    · exact .inl same
    · right
      refine (kept.stored x).mpr ⟨begun, fun past => ?_⟩
      exact (covers.mp (.inr (queued (.inl past)))).resolve_right same

theorem kept_stop (kept : Kept retention started finished e)
    (steps : e.step? execution .stop now = some next) :
    Kept retention started (finished ++ [execution]) next := by
  obtain ⟨run, moved, stored, moves, ⟨goes, _⟩ | ⟨_, rfl⟩⟩ := step_some steps
  · exact absurd rfl goes
  obtain ⟨_, running, rfl⟩ := Run.stop_some moves
  -- Only a running execution makes its last step, so it has not ended before.
  have open_ : execution ∉ finished := by
    intro member
    have terminal := (kept.ended _ _ stored).mpr member
    rw [running] at terminal
    cases terminal
  have known : execution ∈ started := ((kept.stored execution).mp ⟨run, stored⟩).1
  have once : (finished ++ [execution]).Nodup :=
    kept.once.append (List.nodup_singleton _) (by simpa using open_)
  refine ⟨kept.setting, ?_, ?_, once, ?_, ?_, ?_, ?_⟩
  · exact (nodup_upsert kept.keys).sublist (List.filter_sublist.map _)
  · change (e.finished ++ [execution]).drop ((e.finished ++ [execution]).length - e.limit) = _
    rw [limit, kept.setting, kept.queue, drop_snoc]
  · intro x member
    rcases List.mem_append.mp member with earlier | last
    · exact kept.begun x earlier
    · rwa [List.mem_singleton.mp last]
  · exact stored_stop kept once known
  · intro x found here
    obtain ⟨_, found'⟩ := found_retire here
    rcases found_store found' with ⟨rfl, rfl⟩ | ⟨apart, earlier⟩
    · simp [Run.finish_ended]
    · rw [kept.ended x found earlier]
      simp [apart]
  · intro x found here
    obtain ⟨_, found'⟩ := found_retire here
    rcases found_store found' with ⟨rfl, rfl⟩ | ⟨_, earlier⟩
    · obtain ⟨_, _, _, _, went⟩ := kept.origin x run stored
      exact ⟨_, _, _, _, Run.went_snoc went moves⟩
    · exact kept.origin x found earlier

theorem reached_kept (reached : Reached retention started finished e) :
    Kept retention started finished e := by
  induction reached with
  | fresh => exact kept_fresh
  | start _ plain unused starts ih => exact kept_start ih plain unused starts
  | refused _ starts ih =>
      obtain rfl := (congrArg Prod.snd starts).symm.trans (start_error (congrArg Prod.fst starts))
      exact ih
  | step _ goes steps ih => exact kept_step ih goes steps
  | stop _ steps ih => exact kept_stop ih steps

/-- A running execution can always be brought to its end. -/
theorem can_finish (reached : Reached retention started finished e) {run : Run}
    (stored : e.run? execution = some run)
    (running : run.description.status.isTerminal = false) :
    ∃ next, Reached retention started (finished ++ [execution]) next := by
  -- Every step but the last one lowers the rank of the run and leaves it running.
  induction size : run.rank using Nat.strongRecOn generalizing e run with
  | ind size' ih =>
      obtain ⟨step, moved, moves⟩ := Run.progress running run.description.startDate
      by_cases stops : step = .stop
      · subst stops
        exact ⟨_, .stop reached (stop_of_run stored moves)⟩
      · have stepped := Run.step_some moves
        have less := Run.stepped_rank stepped
        have goesOn : moved.description.status.isTerminal = false := by
          rw [Run.stepped_description stepped stops]
          exact running
        have reached' := reached.step stops (step_of_run stored moves stops)
        exact ih moved.rank (by omega) reached' run_store goesOn rfl

end Invariant

section Interleaving

variable {retention : Nat} {started finished : List String} {e next : Engine} {now : Instant}
  {turns : List (String × Step)}

/-- Steps of any executions, one after the other. -/
def follow? (now : Instant) (e : Engine) (turns : List (String × Step)) : Option Engine :=
  turns.foldlM (fun e turn => e.step? turn.1 turn.2 now) e

/-- The executions that make their last step, in this order. -/
def ends : List (String × Step) → List String
  | [] => []
  | (execution, .stop) :: rest => execution :: ends rest
  | _ :: rest => ends rest

theorem ends_cons {execution : String} {step : Step} (goes : step ≠ .stop) :
    ends ((execution, step) :: turns) = ends turns := by
  cases step <;> first | rfl | exact absurd rfl goes

theorem reached_follow (reached : Reached retention started finished e)
    (followed : e.follow? now turns = some next) :
    Reached retention started (finished ++ ends turns) next := by
  induction turns generalizing e finished with
  | nil =>
      obtain rfl : e = next := Option.some.inj followed
      rw [ends, List.append_nil]
      exact reached
  | cons turn rest ih =>
      obtain ⟨execution, step⟩ := turn
      rw [follow?, List.foldlM_cons] at followed
      obtain ⟨moved, steps, others⟩ := Option.bind_eq_some_iff.mp followed
      by_cases stops : step = .stop
      · subst stops
        rw [ends, List.append_cons]
        exact ih (.stop reached steps) others
      · rw [ends_cons stops]
        exact ih (.step reached stops steps) others

end Interleaving

namespace Sample

def region : Region := ⟨"eu-west-1"⟩

def account : AccountId := ⟨"123456789012"⟩

def document : String :=
  "\x7b\"repositories\":[\"web\",\"db\"],\"parameters\":\x7b\x7d\x7d"

def input : PipelineInput := ⟨["web", "db"], ∅⟩

def arn (id : String) : ExecutionArn := executionArn region account "deploy" id

theorem accepted : accept "deploy" document = .ok ("deploy", input) := by
  have name : lastSegment "deploy" = "deploy" := by decide
  have named : "deploy".isEmpty = false := by decide
  have reads : PipelineInput.decode.readText document = some input := by cbv
  simp [accept, name, named, reads]

theorem starts (e : Engine) (id : String) (now : Instant) :
    e.start region account "deploy" document id now =
      (.ok ⟨arn id, now⟩, e.store (arn id).text (.start (arn id) input now)) := by
  rw [Engine.start, accepted]
  rfl

theorem arns_apart : (arn "1").text ≠ (arn "2").text := by decide +kernel

/-- Two executions that have started and done nothing else. -/
def both (retention : Nat) : Engine :=
  (({ retention } : Engine).store (arn "1").text (.start (arn "1") input .epoch)).store
    (arn "2").text (.start (arn "2") input .epoch)

theorem both_reached (retention : Nat) :
    Reached retention [(arn "1").text, (arn "2").text] [] (both retention) := by
  have first := Reached.start (@Reached.fresh retention) (by decide) (by simp)
    (starts _ "1" .epoch)
  have unused : ∀ known ∈ [] ++ [(arn "1").text], lastSegment known ≠ "2" := by
    intro known member
    rw [List.mem_singleton.mp member]
    change lastSegment (_ ++ ":" ++ "1") ≠ "2"
    rw [lastSegment_append (by decide)]
    decide
  exact .start first (by decide) unused (starts _ "2" .epoch)

/-- Of two executions the first one ends first. -/
theorem two_ended (retention : Nat) : ∃ e, Reached retention [(arn "1").text, (arn "2").text]
    [(arn "1").text, (arn "2").text] e := by
  have stored : (both retention).run? (arn "1").text = some (.start (arn "1") input .epoch) := by
    rw [both, run_store_ne arns_apart, run_store]
  obtain ⟨e, reached⟩ := can_finish (both_reached retention) stored rfl
  have kept := reached_kept reached
  have open_ : (arn "2").text ∉ [] ++ [(arn "1").text] := by simpa using arns_apart.symm
  obtain ⟨run, here⟩ := (kept.stored (arn "2").text).mpr ⟨by simp, fun past => absurd past open_⟩
  have running : run.description.status.isTerminal = false := by
    rw [← Bool.not_eq_true, kept.ended _ run here]
    exact open_
  exact can_finish reached here running

end Sample

end Engine

end Rollout.Local
