import Rollout.Local.Execution
import Rollout.Proofs.FanOutTurns
import Rollout.Proofs.HistoryWindow

/-!
What one step of an execution can do, and what every row of steps keeps: events
are only appended, a running execution always has a step to make, and it cannot
make steps for ever. The two map stages are one stage with its own piece of work.
-/

namespace Rollout.Local

open Time (Instant)

/-- A call of the runner that has come back: for which item, and how it ended. -/
inductive RunnerCall where
  | package (position : Nat) (repository : String) (result : Except String Unit)
  | deploy (position : Nat) (repository : String) (build : List BuildVariable)
      (result : Except String Build)

/-- What an event says besides its number and its time. -/
abbrev Mark := String × Option String

def eventMark (event : HistoryEvent) : Mark := (event.type, event.detail)

/-- The event a turn of an item leaves in the history. -/
def turnMark {α : Type} (items : List String) : TaskTurn String α → Mark
  | .began position => ("MapIterationStarted", items[position]?)
  | .ended position result => (Run.outcomeType result, items[position]?)

theorem isTerminal_iff (status : ExecutionStatus) :
    status.isTerminal = true ↔ status ≠ .running := by
  simp [ExecutionStatus.isTerminal]

namespace Run

def marks (r : Run) : List Mark := r.events.map eventMark

def groups (r : Run) : FanOut String Unit × FanOut String Build := (r.packages, r.deploys)

/-- The call of the runner that a step brings to its end. -/
def call? (r : Run) : Step → Option RunnerCall
  | .endPackage position result =>
    match r.job? position with
    | some (.package repository) => some (.package position repository result)
    | _ => none
  | .endDeploy position result =>
    match r.job? position with
    | some (.deploy repository build) => some (.deploy position repository build result)
    | _ => none
  | _ => none

/-- A step, and the execution before it. -/
structure Move where
  before : Run
  step : Step

/-- The calls of the runner that a row of steps brings to their ends, in this order. -/
def calls (moves : List Move) : List RunnerCall :=
  moves.filterMap fun move => move.before.call? move.step

/-- Steps of an execution, one after the other, each at a time of its own. -/
inductive Went : Run → List Move → Run → Prop
  | stay (r : Run) : Went r [] r
  | next {r mid last : Run} {moves : List Move} {step : Step} {now : Instant}
      (steps : r.step? step now = some mid) (rest : Went mid moves last) :
      Went r (⟨r, step⟩ :: moves) last

end Run

/-- Steps a piece of work takes at most, the turns of its items apart. -/
def Work.weight : Work → Nat
  | .packages | .deploys => 2
  | .note _ _ | .pause => 1

/-- A map stage of the plan: its piece of work, its tasks, and the calls it makes. -/
structure MapStage (α : Type) where
  work : Work
  stage : Stage
  get : FanOut String Unit × FanOut String Build → FanOut String α
  put : FanOut String α → FanOut String Unit × FanOut String Build →
    FanOut String Unit × FanOut String Build
  step : TaskTurn String α → Step
  call : List BuildVariable → Nat → String → Except String α → RunnerCall

namespace MapStage

def packaging : MapStage Unit where
  work := .packages
  stage := .packageItems
  get := Prod.fst
  put := fun tasks groups => (tasks, groups.2)
  step
    | .began position => .beginPackage position
    | .ended position result => .endPackage position result
  call := fun _ => .package

def deploying : MapStage Build where
  work := .deploys
  stage := .deployItems
  get := Prod.snd
  put := fun tasks groups => (groups.1, tasks)
  step
    | .began position => .beginDeploy position
    | .ended position result => .endDeploy position result
  call := fun build position repository => .deploy position repository build

variable {α : Type}

def tasks (s : MapStage α) (r : Run) : FanOut String α := s.get r.groups

def set (s : MapStage α) (tasks : FanOut String α) (r : Run) : Run :=
  { r with packages := (s.put tasks r.groups).1, deploys := (s.put tasks r.groups).2 }

theorem item_names {tasks : FanOut String α} (position : Nat) :
    tasks.item? position = (tasks.tasks.map Prod.fst)[position]? := by
  rw [FanOut.item?, List.getElem?_map]

/-- An execution after a turn of one of its items. -/
def turned (s : MapStage α) (r : Run) (turn : TaskTurn String α) (now : Instant)
    (tasks : FanOut String α) : Run :=
  let mark := turnMark ((s.tasks r).tasks.map Prod.fst) turn
  (s.set tasks r).note mark.1 mark.2 now

/-- Steps of an execution at a map stage: a turn of an item, or on from the whole stage. -/
inductive Stepped (s : MapStage α) (now : Instant) (r : Run) (rest : List Work) : Step → Run → Prop
  | turn (turn : TaskTurn String α) {tasks : FanOut String α}
      (takes : (s.tasks r).turn? turn = some tasks) :
      Stepped s now r rest (s.step turn) (s.turned r turn now tasks)
  | leave {report : FanOutReport String α} (reported : (s.tasks r).report? = some report) :
      Stepped s now r rest .leave (r.afterMap s.stage report rest)

/-- What makes a piece of work a map stage. -/
structure Lawful (s : MapStage α) : Prop where
  get_put : ∀ tasks groups, s.get (s.put tasks groups) = tasks
  put_put : ∀ tasks others groups, s.put tasks (s.put others groups) = s.put tasks groups
  put_get : ∀ groups, s.put (s.get groups) groups = groups
  left_put : ∀ tasks groups, (s.put tasks groups).1.left + (s.put tasks groups).2.left +
    (s.get groups).left = groups.1.left + groups.2.left + tasks.left
  heavy : s.work.weight = 2
  turns : ∀ {r : Run} {rest : List Work} (turn : TaskTurn String α) (now : Instant),
    r.todo = s.work :: rest →
      r.step? (s.step turn) now = ((s.tasks r).turn? turn).map (s.turned r turn now)
  leaves : ∀ {r : Run} {rest : List Work} (now : Instant), r.todo = s.work :: rest →
    r.step? .leave now = (s.tasks r).report?.map fun report => r.afterMap s.stage report rest
  only : ∀ {r next : Run} {rest : List Work} {step : Step} {now : Instant},
    r.todo = s.work :: rest → r.step? step now = some next →
      step = .leave ∨ ∃ turn, step = s.step turn
  called : ∀ {r : Run} {rest : List Work} (turn : TaskTurn String α), r.todo = s.work :: rest →
    r.call? (s.step turn) = turn.ended?.bind fun ended =>
      ((s.tasks r).item? ended.1).map fun item =>
        s.call (buildVariables r.input.parameters) ended.1 item ended.2

theorem Lawful.stepped {s : MapStage α} (lawful : s.Lawful) {r next : Run} {rest : List Work}
    {step : Step} {now : Instant} (head : r.todo = s.work :: rest) :
    r.step? step now = some next ↔ s.Stepped now r rest step next := by
  constructor
  · intro steps
    rcases lawful.only head steps with rfl | ⟨turn, rfl⟩
    · rw [lawful.leaves now head] at steps
      obtain ⟨report, reported, rfl⟩ := Option.map_eq_some_iff.mp steps
      exact .leave reported
    · rw [lawful.turns turn now head] at steps
      obtain ⟨tasks, takes, rfl⟩ := Option.map_eq_some_iff.mp steps
      exact .turn turn takes
  · intro steps
    cases steps with
    | turn turn takes => rw [lawful.turns turn now head, takes, Option.map_some]
    | leave reported => rw [lawful.leaves now head, reported, Option.map_some]

theorem packaging_lawful : packaging.Lawful where
  get_put := fun _ _ => rfl
  put_put := fun _ _ _ => rfl
  put_get := fun _ => rfl
  left_put := fun tasks groups => by simp only [packaging]; omega
  heavy := rfl
  turns := by
    rintro ⟨_, _, _, _, packages, deploys, _⟩ rest turn now ⟨⟩
    cases turn with
    | began position =>
        change (packages.begin? position).bind _ = (packages.begin? position).map _
        rw [item_names]
        cases packages.begin? position <;> rfl
    | ended position result =>
        change (packages.settle? position result).bind _ = (packages.settle? position result).map _
        rw [item_names]
        cases packages.settle? position result <;> rfl
  leaves := by
    rintro ⟨⟩ rest now ⟨⟩
    rfl
  only := by
    rintro ⟨⟩ next rest step now ⟨⟩ steps
    cases step with
    | beginPackage position => exact .inr ⟨.began position, rfl⟩
    | endPackage position result => exact .inr ⟨.ended position result, rfl⟩
    | leave => exact .inl rfl
    | _ => cases steps
  called := by
    rintro ⟨_, _, _, _, packages, deploys, _⟩ rest turn ⟨⟩
    cases turn with
    | began position => rfl
    | ended position result =>
        simp only [packaging, Run.call?, Run.job?, TaskTurn.ended?, tasks, Run.groups, Option.bind_some]
        cases packages.item? position <;> rfl

theorem deploying_lawful : deploying.Lawful where
  get_put := fun _ _ => rfl
  put_put := fun _ _ _ => rfl
  put_get := fun _ => rfl
  left_put := fun tasks groups => by simp only [deploying]; omega
  heavy := rfl
  turns := by
    rintro ⟨_, _, _, _, packages, deploys, _⟩ rest turn now ⟨⟩
    cases turn with
    | began position =>
        change (deploys.begin? position).bind _ = (deploys.begin? position).map _
        rw [item_names]
        cases deploys.begin? position <;> rfl
    | ended position result =>
        change (deploys.settle? position result).bind _ = (deploys.settle? position result).map _
        rw [item_names]
        cases deploys.settle? position result <;> rfl
  leaves := by
    rintro ⟨⟩ rest now ⟨⟩
    rfl
  only := by
    rintro ⟨⟩ next rest step now ⟨⟩ steps
    cases step with
    | beginDeploy position => exact .inr ⟨.began position, rfl⟩
    | endDeploy position result => exact .inr ⟨.ended position result, rfl⟩
    | leave => exact .inl rfl
    | _ => cases steps
  called := by
    rintro ⟨_, _, _, _, packages, deploys, _⟩ rest turn ⟨⟩
    cases turn with
    | began position => rfl
    | ended position result =>
        simp only [deploying, Run.call?, Run.job?, TaskTurn.ended?, tasks, Run.groups, Option.bind_some]
        cases deploys.item? position <;> rfl

end MapStage

namespace Run

variable {r mid next last : Run} {moves : List Move} {step : Step} {now : Instant}

/-- All that a step can do. -/
inductive Stepped (now : Instant) (r : Run) : Step → Run → Prop
  | write {type : String} {stage : Stage} {rest : List Work}
      (head : r.todo = .note type stage :: rest) :
      Stepped now r .write { r.note type (some stage.name) now with todo := rest }
  | wake {rest : List Work} (head : r.todo = .pause :: rest) :
      Stepped now r .wake { r with todo := rest }
  | inMap {α : Type} {s : MapStage α} {rest : List Work} {step : Step} {next : Run}
      (lawful : s.Lawful) (head : r.todo = s.work :: rest) (steps : s.Stepped now r rest step next) :
      Stepped now r step next
  | stop (head : r.todo = []) (running : r.description.status.isTerminal = false) :
      Stepped now r .stop (r.finish now)

theorem marks_note (r : Run) (type : String) (detail : Option String) (now : Instant) :
    (r.note type detail now).marks = r.marks ++ [(type, detail)] := by
  simp [marks, note, eventMark]

/-- An execution stops once, at the end of its plan. -/
theorem stop_some (stops : r.step? .stop now = some next) :
    r.todo = [] ∧ r.description.status.isTerminal = false ∧ next = r.finish now := by
  unfold step? at stops
  cases head : r.todo with
  | nil =>
      rw [head] at stops
      cases ended : r.description.status.isTerminal with
      | true => simp [ended] at stops
      | false =>
          refine ⟨rfl, rfl, ?_⟩
          simpa [ended] using stops.symm
  | cons work rest =>
      rw [head] at stops
      cases work <;> cases stops

theorem step_some (steps : r.step? step now = some next) : Stepped now r step next := by
  cases head : r.todo with
  | nil =>
      cases step with
      | stop =>
          obtain ⟨_, running, rfl⟩ := stop_some steps
          exact .stop head running
      | _ =>
          unfold step? at steps
          rw [head] at steps
          cases steps
  | cons work rest =>
      cases work with
      | packages =>
          have lawful := MapStage.packaging_lawful
          exact .inMap lawful head ((lawful.stepped head).mp steps)
      | deploys =>
          have lawful := MapStage.deploying_lawful
          exact .inMap lawful head ((lawful.stepped head).mp steps)
      | note type stage =>
          unfold step? at steps
          rw [head] at steps
          cases step with
          | write =>
              cases steps
              exact .write head
          | _ => cases steps
      | pause =>
          unfold step? at steps
          rw [head] at steps
          cases step with
          | wake =>
              cases steps
              exact .wake head
          | _ => cases steps

/-- A map stage that is left changes what is still to do, and whether something has failed. -/
theorem afterMap_touches {α : Type} (r : Run) (stage : Stage) (report : FanOutReport String α)
    (rest : List Work) : ∃ todo failure, r.afterMap stage report rest = { r with todo, failure } ∧
      (todo = rest ∨ todo = [.note "MapStateFailed" stage]) := by
  unfold afterMap
  split
  · exact ⟨rest, r.failure, rfl, .inl rfl⟩
  · exact ⟨_, _, rfl, .inr rfl⟩

/-- The end changes the description, and one event comes with it. -/
theorem finish_touches (r : Run) (now : Instant) : ∃ type description,
    r.finish now = { r.note type none now with description } ∧
      description.status.isTerminal = true := by
  unfold finish
  split
  · exact ⟨_, _, rfl, rfl⟩
  · exact ⟨_, _, rfl, rfl⟩

theorem finish_ended : (r.finish now).description.status.isTerminal = true := by
  obtain ⟨_, _, same, terminal⟩ := finish_touches r now
  rw [same]
  exact terminal

/-- A step writes one event with the next number, or none. -/
theorem stepped_events (steps : Stepped now r step next) : next.events = r.events ∨
    ∃ type detail, next.events = r.events ++ [⟨r.events.length + 1, type, now, detail⟩] := by
  cases steps with
  | write head => exact .inr ⟨_, _, rfl⟩
  | wake head => exact .inl rfl
  | @inMap α s rest _ _ lawful head steps =>
      cases steps with
      | turn turn takes => exact .inr ⟨_, _, rfl⟩
      | @leave report reported =>
          left
          obtain ⟨_, _, same, _⟩ := afterMap_touches r s.stage report rest
          rw [same]
  | stop head running =>
      right
      obtain ⟨type, _, same, _⟩ := finish_touches r now
      rw [same]
      exact ⟨type, none, rfl⟩

theorem stepped_input (steps : Stepped now r step next) : next.input = r.input := by
  cases steps with
  | write head => rfl
  | wake head => rfl
  | @inMap α s rest _ _ lawful head steps =>
      cases steps with
      | turn turn takes => rfl
      | @leave report reported =>
          obtain ⟨_, _, same, _⟩ := afterMap_touches r s.stage report rest
          rw [same]
  | stop head running =>
      obtain ⟨_, _, same, _⟩ := finish_touches r now
      rw [same]
      rfl

/-- Only the last step touches the description. -/
theorem stepped_description (steps : Stepped now r step next) (goes : step ≠ .stop) :
    next.description = r.description := by
  cases steps with
  | write head => rfl
  | wake head => rfl
  | @inMap α s rest _ _ lawful head steps =>
      cases steps with
      | turn turn takes => rfl
      | @leave report reported =>
          obtain ⟨_, _, same, _⟩ := afterMap_touches r s.stage report rest
          rw [same]
  | stop head running => exact absurd rfl goes

/-- An upper bound of the steps an execution still has to make. -/
def rank (r : Run) : Nat :=
  (r.todo.map Work.weight).sum + (r.packages.left + r.deploys.left) +
    (!r.description.status.isTerminal).toNat

theorem stepped_rank (steps : Stepped now r step next) : next.rank + 1 ≤ r.rank := by
  cases steps with
  | write head =>
      simp only [rank, head, note, List.map_cons, List.sum_cons, Work.weight]
      omega
  | wake head =>
      simp only [rank, head, List.map_cons, List.sum_cons, Work.weight]
      omega
  | @inMap α s rest _ _ lawful head steps =>
      cases steps with
      | @turn turn tasks takes =>
          have less := FanOut.left_turn takes
          have total := lawful.left_put tasks r.groups
          simp only [rank, MapStage.turned, note, MapStage.set, MapStage.tasks, groups] at less total ⊢
          omega
      | @leave report reported =>
          obtain ⟨todo, _, same, rfl | rfl⟩ := afterMap_touches r s.stage report rest
          · simp only [same, rank, head, lawful.heavy, List.map_cons, List.sum_cons]
            omega
          · have one : (Work.note "MapStateFailed" s.stage).weight = 1 := rfl
            simp only [same, rank, head, lawful.heavy, one, List.map_cons, List.map_nil,
              List.sum_cons, List.sum_nil]
            omega
  | stop head running =>
      obtain ⟨_, description, same, terminal⟩ := finish_touches r now
      simp only [same, rank, note, terminal, running, Bool.not_true, Bool.not_false,
        Bool.toNat_false, Bool.toNat_true]
      omega

theorem map_progress {α : Type} {s : MapStage α} {rest : List Work} (lawful : s.Lawful)
    (head : r.todo = s.work :: rest) (now : Instant) :
    ∃ step next, r.step? step now = some next := by
  cases reported : (s.tasks r).report? with
  | some report => exact ⟨_, _, (lawful.stepped head).mpr (.leave reported)⟩
  | none =>
      obtain ⟨position, ⟨tasks, begins⟩ | settles⟩ := FanOut.report_none reported
      · exact ⟨_, _, (lawful.stepped head).mpr (.turn (.began position) begins)⟩
      · obtain ⟨tasks, ends⟩ := settles (.error "")
        exact ⟨_, _, (lawful.stepped head).mpr (.turn (.ended position (.error "")) ends)⟩

/-- An execution that has not ended is never stuck. -/
theorem progress (running : r.description.status.isTerminal = false) (now : Instant) :
    ∃ step next, r.step? step now = some next := by
  cases head : r.todo with
  | nil => exact ⟨.stop, r.finish now, by simp [step?, head, running]⟩
  | cons work rest =>
      cases work with
      | note type stage => exact ⟨.write, _, by simp only [step?, head]; rfl⟩
      | pause => exact ⟨.wake, _, by simp only [step?, head]; rfl⟩
      | packages => exact map_progress MapStage.packaging_lawful head now
      | deploys => exact map_progress MapStage.deploying_lawful head now

theorem calls_cons : calls (⟨r, step⟩ :: moves) = (r.call? step).toList ++ calls moves := by
  rw [calls, List.filterMap_cons]
  cases r.call? step <;> rfl

theorem went_append {others : List Move} (first : Went r moves mid) (second : Went mid others last) :
    Went r (moves ++ others) last := by
  induction first with
  | stay => exact second
  | next steps _ ih => exact .next steps (ih second)

theorem went_snoc (went : Went r moves mid) (steps : mid.step? step now = some last) :
    Went r (moves ++ [⟨mid, step⟩]) last :=
  went_append went (.next steps (.stay last))

/-- Does given steps one after the other, all of them at one time. -/
def follow (now : Instant) : Run → List Step → Option (List Move × Run)
  | r, [] => some ([], r)
  | r, step :: rest => do
    let mid ← r.step? step now
    let (moves, last) ← follow now mid rest
    some (⟨r, step⟩ :: moves, last)

theorem follow_went {steps : List Step} (follows : follow now r steps = some (moves, last)) :
    Went r moves last := by
  induction steps generalizing r moves with
  | nil =>
      cases follows
      exact .stay _
  | cons step rest ih =>
      simp only [follow, Option.bind_eq_bind, Option.bind_eq_some_iff] at follows
      obtain ⟨mid, steps, ⟨others, end_⟩, more, same⟩ := follows
      cases same
      exact .next steps (ih more)

theorem went_rank (went : Went r moves last) : moves.length + last.rank ≤ r.rank := by
  induction went with
  | stay => simp
  | next steps _ ih =>
      have less := stepped_rank (step_some steps)
      rw [List.length_cons]
      omega

/-- Every execution can be led to its end. -/
theorem can_end (r : Run) : ∃ moves last, Went r moves last ∧
    last.description.status.isTerminal = true := by
  induction size : r.rank using Nat.strongRecOn generalizing r with
  | ind size' ih =>
      cases ended : r.description.status.isTerminal with
      | true => exact ⟨[], r, .stay r, ended⟩
      | false =>
          obtain ⟨step, mid, steps⟩ := progress ended r.description.startDate
          have less := stepped_rank (step_some steps)
          obtain ⟨moves, last, went, terminal⟩ := ih mid.rank (by omega) mid rfl
          exact ⟨⟨r, step⟩ :: moves, last, .next steps went, terminal⟩

/-- Events already written stay as they are. -/
theorem went_events (went : Went r moves last) : r.events <+: last.events := by
  induction went with
  | stay => exact List.prefix_rfl
  | next steps _ ih =>
      rcases stepped_events (step_some steps) with same | ⟨type, detail, more⟩
      · rwa [same] at ih
      · rw [more] at ih
        exact (List.prefix_append _ _).trans ih

theorem went_input (went : Went r moves last) : last.input = r.input := by
  induction went with
  | stay => rfl
  | next steps _ ih => exact ih.trans (stepped_input (step_some steps))

/-- The end of an execution comes with an event of its own. -/
theorem went_ended (went : Went r moves last) (running : r.description.status.isTerminal = false)
    (ended : last.description.status.isTerminal = true) :
    r.events.length < last.events.length := by
  induction went with
  | stay =>
      rw [running] at ended
      cases ended
  | @next r mid last moves step now steps rest ih =>
      have stepped := step_some steps
      have grows := (went_events (.next steps (.stay mid))).length_le
      by_cases stops : step = .stop
      · subst stops
        obtain ⟨_, _, rfl⟩ := stop_some steps
        obtain ⟨type, _, same, _⟩ := finish_touches r now
        have kept := (went_events rest).length_le
        rw [same, note, List.length_append, List.length_singleton] at kept
        omega
      · have goesOn : mid.description.status.isTerminal = false := by
          rw [stepped_description stepped stops]
          exact running
        have later := ih goesOn ended
        omega

theorem went_numbered (went : Went r moves last) (numbered : NumberedFrom 0 r.events) :
    NumberedFrom 0 last.events := by
  induction went with
  | stay => exact numbered
  | next steps _ ih =>
      apply ih
      rcases stepped_events (step_some steps) with same | ⟨type, detail, more⟩
      · rwa [same]
      · rw [more]
        apply numbered_append numbered
        simp

end Run

end Rollout.Local
