import Rollout.Proofs.ExecutionSteps

/-!
The way of an execution from its start to its end, piece of the plan by piece.
There are three: a package fails, a deploy fails, or nothing does. Each says
which calls were made, which events were written and how the execution ended.
-/

namespace Rollout.Local

open Time (Instant)

/-- The events of a state that is a single task. -/
def taskMarks (stage : Stage) : List Mark :=
  [("TaskStateEntered", some stage.name), ("TaskSucceeded", some stage.name),
    ("TaskStateExited", some stage.name)]

/-- The events of a map state: it is entered, its items take their turns, it is closed. -/
def mapMarks {α : Type} (stage : Stage) (items : List String) (turns : List (TaskTurn String α))
    (closed : String) : List Mark :=
  ("MapStateEntered", some stage.name) :: (turns.map (turnMark items) ++ [(closed, some stage.name)])

/-- The events of an ended execution. -/
def story (states : List Mark) (ending : String) : List Mark :=
  ("ExecutionStarted", none) :: (states ++ [(ending, none)])

/-- A description of an execution that failed at an item. -/
structure Failed (d : ExecutionDescription) (item failure : String) : Prop where
  status : d.status = .failed
  output : d.output = none
  error : d.error = some "States.TaskFailed"
  cause : d.cause = some (item ++ ": " ++ failure)

/-- A description of an execution that succeeded. -/
structure Achieved (d : ExecutionDescription) (output : Json) : Prop where
  status : d.status = .succeeded
  output : d.output = some output.compact
  error : d.error = none
  cause : d.cause = none

namespace MapStage

@[simp] theorem packaging_stage : packaging.stage = .packageItems := rfl

@[simp] theorem deploying_stage : deploying.stage = .deployItems := rfl

variable {α : Type}

/-- The call an item's turn ends, in a stage over the repositories of an input. -/
def called (s : MapStage α) (input : PipelineInput) (turn : TaskTurn String α) : Option RunnerCall :=
  turn.ended?.bind fun ended => input.repositories[ended.1]?.map fun item =>
    s.call (buildVariables input.parameters) ended.1 item ended.2

end MapStage

/-- What the calls, the events and the description of an ended execution say together. -/
inductive Course (input : PipelineInput) :
    List RunnerCall → List Mark → ExecutionDescription → Prop
  | packageFailed {turns : List (TaskTurn String Unit)} {results : List (Except String Unit)}
      {item failure : String} {d : ExecutionDescription}
      (taken : TakenTurns turns results) (size : results.length = input.repositories.length)
      (first : FirstFailure input.repositories results item failure) (failed : Failed d item failure) :
      Course input (turns.filterMap (MapStage.packaging.called input))
        (story (taskMarks .serializeParameters ++
          mapMarks .packageItems input.repositories turns "MapStateFailed") "ExecutionFailed") d
  | deployFailed {turns : List (TaskTurn String Unit)} {results : List (Except String Unit)}
      {turns' : List (TaskTurn String Build)} {results' : List (Except String Build)}
      {item failure : String} {d : ExecutionDescription}
      (taken : TakenTurns turns results) (size : results.length = input.repositories.length)
      (succeeded : Succeeded results)
      (taken' : TakenTurns turns' results') (size' : results'.length = input.repositories.length)
      (first : FirstFailure input.repositories results' item failure) (failed : Failed d item failure) :
      Course input
        (turns.filterMap (MapStage.packaging.called input) ++
          turns'.filterMap (MapStage.deploying.called input))
        (story (taskMarks .serializeParameters ++
          mapMarks .packageItems input.repositories turns "MapStateExited" ++
          mapMarks .deployItems input.repositories turns' "MapStateFailed") "ExecutionFailed") d
  | succeeded {turns : List (TaskTurn String Unit)} {results : List (Except String Unit)}
      {turns' : List (TaskTurn String Build)} {builds : List Build} {d : ExecutionDescription}
      (taken : TakenTurns turns results) (size : results.length = input.repositories.length)
      (succeeded : Succeeded results)
      (taken' : TakenTurns turns' (builds.map .ok)) (size' : builds.length = input.repositories.length)
      (achieved : Achieved d (Run.outputJson input (input.repositories.zip builds))) :
      Course input
        (turns.filterMap (MapStage.packaging.called input) ++
          turns'.filterMap (MapStage.deploying.called input))
        (story (taskMarks .serializeParameters ++
          mapMarks .packageItems input.repositories turns "MapStateExited" ++
          mapMarks .deployItems input.repositories turns' "MapStateExited" ++
          taskMarks .aggregateOutputs) "ExecutionSucceeded") d

/-- The event a piece of work writes. -/
def Work.mark? : Work → Option Mark
  | .note type stage => some (type, some stage.name)
  | .pause | .packages | .deploys => none

/-- The plan before its first map stage. -/
def opening : List Work := [
  .note "TaskStateEntered" .serializeParameters,
  .pause,
  .note "TaskSucceeded" .serializeParameters,
  .note "TaskStateExited" .serializeParameters,
  .note "MapStateEntered" .packageItems]

/-- The plan from one map stage to the other. -/
def between : List Work := [
  .note "MapStateExited" .packageItems,
  .note "MapStateEntered" .deployItems]

/-- The plan behind its second map stage. -/
def closing : List Work := [
  .note "MapStateExited" .deployItems,
  .note "TaskStateEntered" .aggregateOutputs,
  .pause,
  .note "TaskSucceeded" .aggregateOutputs,
  .note "TaskStateExited" .aggregateOutputs]

theorem opening_marks : opening.filterMap Work.mark? =
    taskMarks .serializeParameters ++ [("MapStateEntered", some Stage.packageItems.name)] := rfl

theorem between_marks : between.filterMap Work.mark? =
    [("MapStateExited", some Stage.packageItems.name),
      ("MapStateEntered", some Stage.deployItems.name)] := rfl

theorem closing_marks : closing.filterMap Work.mark? =
    ("MapStateExited", some Stage.deployItems.name) :: taskMarks .aggregateOutputs := rfl

namespace Run

variable {origin r mid last : Run} {moves : List Move}

/-- An execution further on in its plan: what it still is, what it still has to do, how far
its items are and which events it has written since. -/
structure Onward (origin r : Run) (rest : List Work)
    (groups : FanOut String Unit × FanOut String Build) (wrote : List Mark) : Prop where
  input : r.input = origin.input
  description : r.description = origin.description
  failure : r.failure = origin.failure
  todo : r.todo = rest
  groups : r.groups = groups
  marks : r.marks = origin.marks ++ wrote

section Pieces

variable {rest : List Work} {groups : FanOut String Unit × FanOut String Build}
  {wrote : List Mark}

theorem Onward.refl (r : Run) : Onward r r r.todo r.groups [] :=
  ⟨rfl, rfl, rfl, rfl, rfl, (List.append_nil _).symm⟩

theorem Onward.goOn (on : Onward origin r rest groups wrote) (rest' : List Work) :
    Onward origin { r with todo := rest' } rest' groups wrote :=
  ⟨on.input, on.description, on.failure, rfl, on.groups, on.marks⟩

theorem Onward.note {type : String} {stage : Stage} {work : List Work}
    (on : Onward origin r work groups wrote) (now : Instant) (rest : List Work) :
    Onward origin { r.note type (some stage.name) now with todo := rest } rest groups
      (wrote ++ [(type, some stage.name)]) where
  input := on.input
  description := on.description
  failure := on.failure
  todo := rfl
  groups := on.groups
  marks := by
    rw [← List.append_assoc, ← on.marks]
    exact marks_note ..

theorem Onward.turned {α : Type} {s : MapStage α} (on : Onward origin r rest groups wrote)
    (named : (s.get groups).tasks.map Prod.fst = origin.input.repositories)
    (turn : TaskTurn String α) (now : Instant) (tasks : FanOut String α) :
    Onward origin (s.turned r turn now tasks) rest (s.put tasks groups)
      (wrote ++ [turnMark origin.input.repositories turn]) where
  input := on.input
  description := on.description
  failure := on.failure
  todo := on.todo
  groups := congrArg (s.put tasks) on.groups
  marks := by
    have stands : (s.tasks r).tasks.map Prod.fst = origin.input.repositories := by
      rw [MapStage.tasks, on.groups, named]
    rw [← List.append_assoc, ← on.marks, MapStage.turned, stands]
    exact marks_note ..

/-- The call that a turn ends is the one its item and the input ask for. -/
theorem Onward.call {α : Type} {s : MapStage α} (lawful : s.Lawful)
    (on : Onward origin r (s.work :: rest) groups wrote)
    (named : (s.get groups).tasks.map Prod.fst = origin.input.repositories)
    (turn : TaskTurn String α) : r.call? (s.step turn) = s.called origin.input turn := by
  rw [lawful.called turn on.todo, MapStage.called, on.input]
  simp only [MapStage.item_names, MapStage.tasks, on.groups, named]

theorem Onward.running (on : Onward origin r rest groups wrote)
    (running : origin.description.status.isTerminal = false) :
    r.description.status.isTerminal = false := by
  rw [on.description]
  exact running

/-- An execution that has not ended has a step before it to its end. -/
theorem went_on (running : r.description.status.isTerminal = false) (went : Went r moves last)
    (ended : last.description.status.isTerminal = true) :
    ∃ step now mid later, Stepped now r step mid ∧ Went mid later last ∧
      moves = ⟨r, step⟩ :: later := by
  cases went with
  | stay =>
      rw [running] at ended
      cases ended
  | next steps rest => exact ⟨_, _, _, _, step_some steps, rest, rfl⟩

/-- Notes and pauses at the front of the plan write their events and change nothing else. -/
theorem written (script : List Work) (plain : ∀ work ∈ script, work.weight = 1)
    (on : Onward origin r (script ++ rest) groups wrote)
    (running : origin.description.status.isTerminal = false) (went : Went r moves last)
    (ended : last.description.status.isTerminal = true) :
    ∃ mid later, Onward origin mid rest groups (wrote ++ script.filterMap Work.mark?) ∧
      Went mid later last ∧ calls moves = calls later := by
  induction script generalizing r moves wrote with
  | nil => exact ⟨r, moves, by simpa using on, went, rfl⟩
  | cons work script ih =>
      obtain ⟨step, now, next, later, steps, went, rfl⟩ := went_on (on.running running) went ended
      have others := fun work member => plain work (List.mem_cons_of_mem _ member)
      cases steps with
      | write head =>
          rw [on.todo] at head
          obtain ⟨rfl, rfl⟩ := List.cons.inj head
          obtain ⟨mid, later, on, went, asks⟩ := ih others (on.note now _) went
          exact ⟨mid, later, by simpa [Work.mark?] using on, went, asks⟩
      | wake head =>
          rw [on.todo] at head
          obtain ⟨rfl, rfl⟩ := List.cons.inj head
          obtain ⟨mid, later, on, went, asks⟩ := ih others (on.goOn _) went
          exact ⟨mid, later, on, went, asks⟩
      | inMap lawful head _ =>
          -- A map stage is too heavy to be a note or a pause.
          rw [on.todo] at head
          obtain ⟨rfl, rfl⟩ := List.cons.inj head
          have light := plain _ List.mem_cons_self
          rw [lawful.heavy] at light
          cases light
      | stop head _ =>
          rw [on.todo] at head
          cases head

/-- A map stage is left only when all its items have had their turns. -/
theorem mapped {α : Type} {s : MapStage α} {turns : List (TaskTurn String α)} (lawful : s.Lawful)
    (on : Onward origin r (s.work :: rest) groups wrote)
    (running : origin.description.status.isTerminal = false)
    (gone : FanOut.Went origin.input.repositories turns (s.get groups)) (went : Went r moves last)
    (ended : last.description.status.isTerminal = true) :
    ∃ mid tasks more results later,
      Onward origin mid (s.work :: rest) (s.put tasks groups)
        (wrote ++ more.map (turnMark origin.input.repositories)) ∧
      tasks.report? = some ⟨origin.input.repositories.zip results⟩ ∧
      results.length = origin.input.repositories.length ∧ TakenTurns (turns ++ more) results ∧
      Went (mid.afterMap s.stage ⟨origin.input.repositories.zip results⟩ rest) later last ∧
      calls moves = more.filterMap (s.called origin.input) ++ calls later := by
  induction went generalizing turns groups wrote with
  | stay =>
      rw [on.running running] at ended
      cases ended
  | @next r next last moves step now steps onward ih =>
      have stands : s.tasks r = s.get groups := congrArg s.get on.groups
      have named := (FanOut.went_tells gone).named
      cases (lawful.stepped on.todo).mp steps with
      | @turn turn tasks takes =>
          rw [stands] at takes
          have gone' : FanOut.Went origin.input.repositories (turns ++ [turn])
              (s.get (s.put tasks groups)) := by
            rw [lawful.get_put]
            exact .turn gone takes
          obtain ⟨mid, tasks', more, results, later, on', reported, size, taken, went, asks⟩ :=
            ih (on.turned named turn now tasks) gone' ended
          refine ⟨mid, tasks', turn :: more, results, later, ?_, reported, size, ?_, went, ?_⟩
          · rw [lawful.put_put] at on'
            simpa using on'
          · simpa using taken
          · rw [calls_cons, on.call lawful named, asks, List.filterMap_cons]
            cases s.called origin.input turn <;> rfl
      | @leave report reported =>
          -- Nothing is left to be done in the stage: the turns so far are all of them.
          rw [stands] at reported
          obtain ⟨results, size, whole, taken⟩ := FanOut.went_report gone reported
          obtain rfl : report = ⟨origin.input.repositories.zip results⟩ := by
            cases report
            exact congrArg _ whole
          refine ⟨r, s.get groups, [], results, moves, ?_, reported, size, ?_, onward, rfl⟩
          · rw [lawful.put_get]
            simpa using on
          · simpa using taken

end Pieces

theorem afterMap_cases {α : Type} {items : List String} {results : List (Except String α)}
    (size : results.length = items.length) (stage : Stage) (rest : List Work) (r : Run) :
    (∃ found : List α, results = found.map Except.ok ∧
      r.afterMap stage ⟨items.zip results⟩ rest = { r with todo := rest }) ∨
    ∃ item failure, FirstFailure items results item failure ∧
      r.afterMap stage ⟨items.zip results⟩ rest =
        { r with
          todo := [.note "MapStateFailed" stage]
          failure := some (taskFailed, item ++ ": " ++ failure) } := by
  cases passes : FanOutReport.toExcept ⟨items.zip results⟩ with
  | ok values =>
      obtain ⟨found, whole⟩ := (FanOutReport.toExcept_succeeded size passes).exists_values
      exact .inl ⟨found, whole, by rw [afterMap, passes]⟩
  | error f =>
      exact .inr ⟨f.item, f.error, FanOutReport.toExcept_error size passes, by rw [afterMap, passes]⟩

theorem stepped_nil {step : Step} {now : Instant} (todo : r.todo = [])
    (steps : Stepped now r step mid) :
    step = .stop ∧ mid = r.finish now ∧ r.description.status.isTerminal = false := by
  cases steps with
  | stop _ running => exact ⟨rfl, rfl, running⟩
  | write head | wake head | inMap _ head _ =>
      rw [todo] at head
      cases head

/-- The end of the plan is the end of the execution. -/
theorem stopped (running : r.description.status.isTerminal = false) (todo : r.todo = [])
    (went : Went r moves last) (ended : last.description.status.isTerminal = true) :
    ∃ now, last = r.finish now ∧ calls moves = [] := by
  obtain ⟨step, now, mid, later, steps, went, rfl⟩ := went_on running went ended
  obtain ⟨rfl, rfl, _⟩ := stepped_nil todo steps
  refine ⟨now, ?_⟩
  cases went with
  | stay => exact ⟨rfl, rfl⟩
  | next steps _ =>
      -- What has ended makes no further step.
      obtain ⟨_, _, same, _⟩ := finish_touches r now
      have atEnd : (r.finish now).todo = [] := by
        rw [same]
        exact todo
      obtain ⟨_, _, running⟩ := stepped_nil atEnd (step_some steps)
      rw [finish_ended] at running
      cases running

theorem finish_succeeded {now : Instant} (clean : r.failure = none) :
    (r.finish now).marks = r.marks ++ [("ExecutionSucceeded", none)] ∧
      (r.finish now).description = { r.description with
        status := .succeeded
        stopDate := some now
        output := some (outputJson r.input r.deployed).compact } := by
  unfold finish
  rw [clean]
  exact ⟨marks_note .., rfl⟩

theorem finish_failed {now : Instant} {error cause : String}
    (fails : r.failure = some (error, cause)) :
    (r.finish now).marks = r.marks ++ [("ExecutionFailed", none)] ∧
      (r.finish now).description = { r.description with
        status := .failed
        stopDate := some now
        error := some error
        cause := some cause } := by
  unfold finish
  rw [fails]
  exact ⟨marks_note .., rfl⟩

section Whole

variable {execution : ExecutionArn} {input : PipelineInput} {opened : Instant}
  {rest : List Work} {groups : FanOut String Unit × FanOut String Build} {wrote : List Mark}

@[simp] theorem start_input : (start execution input opened).input = input := rfl

/-- A failed map stage ends the execution. -/
theorem failing {stage : Stage} {item failure : String}
    (on : Onward (start execution input opened) r rest groups wrote)
    (went : Went { r with
      todo := [.note "MapStateFailed" stage]
      failure := some (taskFailed, item ++ ": " ++ failure) } moves last)
    (ended : last.description.status.isTerminal = true) :
    calls moves = [] ∧ Failed last.description item failure ∧
      last.marks = story (wrote ++ [("MapStateFailed", some stage.name)]) "ExecutionFailed" := by
  have running := on.running rfl
  have here := Onward.refl { r with
    todo := [.note "MapStateFailed" stage]
    failure := some (taskFailed, item ++ ": " ++ failure) }
  obtain ⟨mid, later, on', went, asks⟩ :=
    written [.note "MapStateFailed" stage] (by simp [Work.weight]) here running went ended
  obtain ⟨now, rfl, quiet⟩ := stopped (on'.running running) on'.todo went ended
  obtain ⟨grown, failed⟩ := @finish_failed mid now _ _ on'.failure
  refine ⟨asks.trans quiet, ?_, ?_⟩
  · rw [failed, on'.description, on.description]
    exact ⟨rfl, rfl, rfl, rfl⟩
  · rw [grown, on'.marks]
    change r.marks ++ _ ++ _ = _
    rw [on.marks]
    simp [story, start, marks, eventMark, Work.mark?]

/-- Behind the deploys only the outputs are put together. -/
theorem achieving {builds : List Build}
    (on : Onward (start execution input opened) r closing groups wrote)
    (reported : groups.2.report? = some ⟨input.repositories.zip (builds.map .ok)⟩)
    (went : Went r moves last) (ended : last.description.status.isTerminal = true) :
    calls moves = [] ∧
      Achieved last.description (outputJson input (input.repositories.zip builds)) ∧
      last.marks = story (wrote ++ closing.filterMap Work.mark?) "ExecutionSucceeded" := by
  obtain ⟨mid, later, on, went, asks⟩ :=
    written closing (by simp [closing, Work.weight]) on rfl went ended
  obtain ⟨now, rfl, quiet⟩ := stopped (on.running rfl) on.todo went ended
  have handed : mid.deployed = input.repositories.zip builds := by
    have kept : mid.deploys = groups.2 := congrArg Prod.snd on.groups
    rw [deployed, kept, reported]
    simp only [Option.map_some, Option.bind_some, FanOutReport.toExcept_values]
    rfl
  obtain ⟨grown, succeeded⟩ := @finish_succeeded mid now on.failure
  refine ⟨asks.trans quiet, ?_, ?_⟩
  · rw [succeeded, handed, on.input, on.description]
    exact ⟨rfl, rfl, rfl, rfl⟩
  · rw [grown, on.marks]
    simp [story, start, marks, eventMark]

/-- Every ended execution went one of the three ways. -/
theorem course (went : Went (start execution input opened) moves last)
    (ended : last.description.status.isTerminal = true) :
    Course input (calls moves) last.marks last.description := by
  have on : Onward (start execution input opened) (start execution input opened)
      (opening ++ .packages :: (between ++ .deploys :: closing))
      (start execution input opened).groups [] := .refl _
  obtain ⟨a, _, on, went, asks⟩ :=
    written opening (by simp [opening, Work.weight]) on rfl went ended
  obtain ⟨b, tasks, turns, results, _, on, _, size, taken, went, asks'⟩ :=
    mapped MapStage.packaging_lawful on rfl .start went ended
  rcases afterMap_cases size MapStage.packaging.stage (between ++ .deploys :: closing) b with
    ⟨_, rfl, goes⟩ | ⟨item, failure, first, goes⟩
  · rw [goes] at went
    obtain ⟨c, _, on, went, asks''⟩ :=
      written between (by simp [between, Work.weight]) (on.goOn _) rfl went ended
    obtain ⟨d, tasks', turns', results', _, on, reported, size', taken', went, asks₃⟩ :=
      mapped MapStage.deploying_lawful on rfl .start went ended
    rcases afterMap_cases size' MapStage.deploying.stage closing d with
      ⟨builds, rfl, goes⟩ | ⟨item, failure, first, goes⟩
    · rw [goes] at went
      obtain ⟨quiet, achieved, told⟩ := achieving (on.goOn _) reported went ended
      have way : Course input _ _ last.description :=
        .succeeded taken size (succeeded_map _) taken' (by simpa using size') achieved
      rw [asks, asks', asks'', asks₃, quiet, told, List.append_nil]
      simpa [opening_marks, between_marks, closing_marks, mapMarks] using way
    · rw [goes] at went
      obtain ⟨quiet, failed, told⟩ := failing on went ended
      have way : Course input _ _ last.description :=
        .deployFailed taken size (succeeded_map _) taken' size' first failed
      rw [asks, asks', asks'', asks₃, quiet, told, List.append_nil]
      simpa [opening_marks, between_marks, mapMarks] using way
  · rw [goes] at went
    obtain ⟨quiet, failed, told⟩ := failing on went ended
    have way : Course input _ _ last.description := .packageFailed taken size first failed
    rw [asks, asks', quiet, told, List.append_nil]
    simpa [opening_marks, mapMarks] using way

end Whole

end Run

end Rollout.Local
