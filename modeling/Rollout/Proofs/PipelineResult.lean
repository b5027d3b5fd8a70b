import Rollout.Proofs.ExecutionCourse

/-!
What an execution has done by its end, in whatever order its items took their
turns: which calls the runner had, and which of their failures the description
tells.
-/

namespace Rollout.Local

open Time (Instant)

def RunnerCall.isOk : RunnerCall → Bool
  | .package _ _ result => FanOutReport.isOk result
  | .deploy _ _ _ result => FanOutReport.isOk result

namespace MapStage

variable {α : Type} {input : PipelineInput}

/-- One call for every repository, in item order. -/
def callsOf (s : MapStage α) (input : PipelineInput) (results : List (Except String α)) :
    List RunnerCall :=
  (input.repositories.zip results).mapIdx fun position entry =>
    s.call (buildVariables input.parameters) position entry.1 entry.2

theorem called_at {β : Type} (call : Nat → String → Except String α → β) (passed : List String)
    (items : List String) (results : List (Except String α)) (size : results.length = items.length) :
    (results.mapIdx fun n result => (passed.length + n, result)).filterMap
        (fun ended => (passed ++ items)[ended.1]?.map fun item => call ended.1 item ended.2) =
      (items.zip results).mapIdx fun n entry => call (passed.length + n) entry.1 entry.2 := by
  -- A call is numbered from the start of the list, so what was passed stays in front.
  induction items generalizing passed results with
  | nil =>
      obtain rfl := List.length_eq_zero_iff.mp size
      rfl
  | cons item items ih =>
      cases results with
      | nil => cases size
      | cons result results =>
          have rest := ih (passed ++ [item]) results (Nat.succ.inj size)
          simp only [List.length_append, List.length_singleton, List.append_assoc,
            List.singleton_append] at rest
          simp only [List.mapIdx_cons, List.zip_cons_cons, Nat.add_zero]
          rw [List.filterMap_cons]
          simp only [List.getElem?_append_right (Nat.le_refl _), Nat.sub_self]
          simpa [Nat.add_assoc, Nat.add_comm 1] using rest

/-- Whatever the order of the turns, each item is called for exactly once. -/
theorem calls_perm (s : MapStage α) {turns : List (TaskTurn String α)}
    {results : List (Except String α)} (taken : TakenTurns turns results)
    (size : results.length = input.repositories.length) :
    (turns.filterMap (s.called input)).Perm (s.callsOf input results) := by
  have ends := taken.ends_perm.filterMap fun ended => input.repositories[ended.1]?.map fun item =>
    s.call (buildVariables input.parameters) ended.1 item ended.2
  have inOrder := called_at (s.call (buildVariables input.parameters)) [] input.repositories results size
  simp only [List.length_nil, Nat.zero_add, List.nil_append] at inOrder
  rw [List.filterMap_filterMap] at ends
  change List.Perm _ (List.filterMap _ (results.mapIdx fun n result => (n, result))) at ends
  rw [inOrder] at ends
  exact ends

/-- The calls of a stage went well when its results did. -/
theorem callsOf_ok (s : MapStage α) (tells : ∀ build position item result,
      (s.call build position item result).isOk = FanOutReport.isOk result)
    {calls : List RunnerCall} {results : List (Except String α)}
    (size : results.length = input.repositories.length)
    (each : calls.Perm (s.callsOf input results)) :
    (∀ call ∈ calls, call.isOk = true) ↔ Succeeded results := by
  constructor
  · intro fine result member
    obtain ⟨position, inside, rfl⟩ := List.mem_iff_getElem.mp member
    have made : s.call (buildVariables input.parameters) position input.repositories[position]
        results[position] ∈ s.callsOf input results :=
      List.mem_mapIdx.mpr ⟨position, by simp [size]; omega, by simp⟩
    have good := fine _ (each.mem_iff.mpr made)
    rw [tells] at good
    cases one : results[position] with
    | ok value => exact ⟨value, rfl⟩
    | error failure =>
        rw [one] at good
        cases good
  · intro succeeded call member
    obtain ⟨position, inside, rfl⟩ := List.mem_mapIdx.mp (each.mem_iff.mp member)
    rw [tells]
    have within := (List.of_mem_zip (List.getElem_mem inside)).2
    obtain ⟨value, same⟩ : ∃ value, (input.repositories.zip results)[position].2 = .ok value :=
      succeeded _ within
    rw [same]
    rfl

end MapStage

/-- What the calls of an ended execution and its description say of each other. Calls are
taken up to their order within a map stage; every deploy comes after every package. -/
inductive Concluded (input : PipelineInput) : List RunnerCall → ExecutionDescription → Prop
  | packageFailed {calls : List RunnerCall} {packaged : List (Except String Unit)}
      {item failure : String} {d : ExecutionDescription}
      (size : packaged.length = input.repositories.length)
      (each : calls.Perm (MapStage.packaging.callsOf input packaged))
      (first : FirstFailure input.repositories packaged item failure)
      (failed : Failed d item failure) : Concluded input calls d
  | deployFailed {calls calls' : List RunnerCall} {packaged : List (Except String Unit)}
      {deployed : List (Except String Build)} {item failure : String} {d : ExecutionDescription}
      (size : packaged.length = input.repositories.length)
      (each : calls.Perm (MapStage.packaging.callsOf input packaged))
      (succeeded : Succeeded packaged)
      (size' : deployed.length = input.repositories.length)
      (each' : calls'.Perm (MapStage.deploying.callsOf input deployed))
      (first : FirstFailure input.repositories deployed item failure)
      (failed : Failed d item failure) : Concluded input (calls ++ calls') d
  | succeeded {calls calls' : List RunnerCall} {packaged : List (Except String Unit)}
      {builds : List Build} {d : ExecutionDescription}
      (size : packaged.length = input.repositories.length)
      (each : calls.Perm (MapStage.packaging.callsOf input packaged))
      (succeeded : Succeeded packaged)
      (size' : builds.length = input.repositories.length)
      (each' : calls'.Perm (MapStage.deploying.callsOf input (builds.map .ok)))
      (achieved : Achieved d (Run.outputJson input (input.repositories.zip builds))) :
      Concluded input (calls ++ calls') d

theorem Course.concluded {input : PipelineInput} {calls : List RunnerCall} {marks : List Mark}
    {d : ExecutionDescription} (course : Course input calls marks d) : Concluded input calls d := by
  cases course with
  | packageFailed taken size first failed =>
      exact .packageFailed size (MapStage.calls_perm _ taken size) first failed
  | deployFailed taken size succeeded taken' size' first failed =>
      exact .deployFailed size (MapStage.calls_perm _ taken size) succeeded size'
        (MapStage.calls_perm _ taken' size') first failed
  | succeeded taken size succeeded taken' size' achieved =>
      exact .succeeded size (MapStage.calls_perm _ taken size) succeeded size'
        (MapStage.calls_perm _ taken' (by rw [List.length_map, size'])) achieved

/-- The status tells whether all calls succeeded. -/
theorem Concluded.status {input : PipelineInput} {calls : List RunnerCall}
    {d : ExecutionDescription} (concluded : Concluded input calls d) :
    d.status = .succeeded ↔ ∀ call ∈ calls, call.isOk = true := by
  cases concluded with
  | packageFailed size each first failed =>
      rw [failed.status, MapStage.callsOf_ok _ (fun _ _ _ _ => rfl) size each]
      constructor
      · intro same
        cases same
      · intro succeeded
        exact absurd succeeded first.not_succeeded
  | deployFailed size each succeeded size' each' first failed =>
      rw [failed.status, List.forall_mem_append,
        MapStage.callsOf_ok _ (fun _ _ _ _ => rfl) size' each']
      constructor
      · intro same
        cases same
      · intro both
        exact absurd both.2 first.not_succeeded
  | @succeeded _ _ _ builds _ size each succeeded size' each' achieved =>
      rw [achieved.status, List.forall_mem_append,
        MapStage.callsOf_ok _ (fun _ _ _ _ => rfl) size each,
        MapStage.callsOf_ok _ (fun _ _ _ _ => rfl) (by rw [List.length_map, size']) each']
      exact ⟨fun _ => ⟨succeeded, succeeded_map builds⟩, fun _ => rfl⟩

namespace Run

section

variable {execution : ExecutionArn} {input : PipelineInput} {opened : Instant} {r : Run}
  {moves : List Move}

theorem rank_start : (start execution input opened).rank = 4 * input.repositories.length + 17 := by
  simp only [rank, start, FanOut.left_ofItems, ExecutionStatus.isTerminal]
  have pieces : (plan.map Work.weight).sum = 16 := rfl
  have open_ : (!(ExecutionStatus.running != ExecutionStatus.running)).toNat = 1 := rfl
  omega

/-- An execution cannot go on for ever and is never stuck, and where it ends depends only on
the results of the calls it has made. -/
theorem pipeline_concluded (went : Went (start execution input opened) moves r) :
    moves.length ≤ 4 * input.repositories.length + 17 ∧
    (r.description.status = .running → ∀ now, ∃ step next, r.step? step now = some next) ∧
    (r.description.status ≠ .running → Concluded input (calls moves) r.description ∧
      (r.description.status = .succeeded ↔ ∀ call ∈ calls moves, call.isOk = true)) := by
  refine ⟨?_, ?_, ?_⟩
  · have bound := went_rank went
    rw [rank_start] at bound
    omega
  · intro running now
    exact progress (by rw [running]; rfl) now
  · intro ended
    have concluded := (course went ((isTerminal_iff _).mpr ended)).concluded
    exact ⟨concluded, concluded.status⟩

end

namespace Sample

def execution : ExecutionArn := ⟨"arn:aws:states:eu-west-1:123456789012:execution:deploy:1"⟩

def input : PipelineInput := ⟨["web", "db"], ∅⟩

/-- The second repository fails first. -/
def steps : List Step := [.write, .wake, .write, .write, .write,
  .beginPackage 0, .beginPackage 1, .endPackage 1 (.error "disk full"),
  .endPackage 0 (.error "timed out"), .leave, .write, .stop]

def done : Option (List Move × Run) := follow .epoch (start execution input .epoch) steps

end Sample

theorem sample_pipeline_concluded :
    ∃ moves r, Went (start Sample.execution Sample.input .epoch) moves r ∧
      r.description.cause = some "web: timed out" ∧
      calls moves = [.package 1 "db" (.error "disk full"), .package 0 "web" (.error "timed out")] ∧
      Concluded Sample.input (calls moves) r.description := by
  obtain ⟨⟨moves, r⟩, here⟩ := Option.isSome_iff_exists.mp (rfl : Sample.done.isSome = true)
  have went := follow_went here
  have kept : Sample.done.map (fun found => (calls found.1, found.2.description.cause)) =
      some ([.package 1 "db" (.error "disk full"), .package 0 "web" (.error "timed out")],
        some "web: timed out") := rfl
  have status : Sample.done.map (fun found => found.2.description.status) = some .failed := rfl
  rw [here] at kept status
  obtain ⟨asked, cause⟩ := Prod.mk.inj (Option.some.inj kept)
  have failed : r.description.status = .failed := Option.some.inj status
  have ended : r.description.status ≠ .running := by
    rw [failed]
    decide
  exact ⟨moves, r, went, cause, asked, ((pipeline_concluded went).2.2 ended).1⟩

end Run

end Rollout.Local
