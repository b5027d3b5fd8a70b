import Rollout.Execution.Basic
import Rollout.FanOut
import Rollout.Output.Aggregate
import Rollout.Pipeline.Input
import Rollout.Pipeline.Stage

/-!
One execution of the local engine as a machine. Its plan is a list of pieces of
work; a step does the first piece, or one item's part of it, and writes the
events that belong to it. Which step comes next, and how a package or a deploy
ends, is up to whoever drives the machine.
-/

namespace Rollout.Local

open Time (Instant)

/-- A deployed repository: the build that did it and what it exported. -/
structure Build where
  id : String
  outputs : Dict Json
  deriving Repr

inductive Work where
  | note (type : String) (stage : Stage)
  | pause
  | packages
  | deploys
  deriving DecidableEq, Repr

def plan : List Work := [
  .note "TaskStateEntered" .serializeParameters,
  .pause,
  .note "TaskSucceeded" .serializeParameters,
  .note "TaskStateExited" .serializeParameters,
  .note "MapStateEntered" .packageItems,
  .packages,
  .note "MapStateExited" .packageItems,
  .note "MapStateEntered" .deployItems,
  .deploys,
  .note "MapStateExited" .deployItems,
  .note "TaskStateEntered" .aggregateOutputs,
  .pause,
  .note "TaskSucceeded" .aggregateOutputs,
  .note "TaskStateExited" .aggregateOutputs]

/-- What the runner is asked to do for one repository. -/
inductive Job where
  | package (repository : String)
  | deploy (repository : String) (build : List BuildVariable)
  deriving DecidableEq, Repr

inductive Step where
  | write
  | wake
  | beginPackage (position : Nat)
  | endPackage (position : Nat) (result : Except String Unit)
  | beginDeploy (position : Nat)
  | endDeploy (position : Nat) (result : Except String Build)
  /-- Goes on from a map stage whose items all have their results. -/
  | leave
  | stop

structure Run where
  description : ExecutionDescription
  events : List HistoryEvent
  input : PipelineInput
  todo : List Work
  packages : FanOut String Unit
  deploys : FanOut String Build
  /-- Error and cause, once a map stage has failed. -/
  failure : Option (String × String)
  deriving Repr

namespace Run

def start (execution : ExecutionArn) (input : PipelineInput) (now : Instant) : Run :=
  { description := ⟨execution, .running, now, none, none, none, none⟩
    events := [⟨1, "ExecutionStarted", now, none⟩]
    input
    todo := plan
    packages := .ofItems input.repositories
    deploys := .ofItems input.repositories
    failure := none }

/-- The job of the item at a position, in the map stage an execution is at. -/
def job? (r : Run) (position : Nat) : Option Job :=
  match r.todo with
  | .packages :: _ => (r.packages.item? position).map .package
  | .deploys :: _ =>
    (r.deploys.item? position).map fun item => .deploy item (buildVariables r.input.parameters)
  | _ => none

/-- Appends an event; its id is its place in the history. -/
def note (r : Run) (type : String) (detail : Option String) (now : Instant) : Run :=
  { r with events := r.events ++ [⟨r.events.length + 1, type, now, detail⟩] }

def outcomeType {α : Type} : Except String α → String
  | .ok _ => "MapIterationSucceeded"
  | .error _ => "MapIterationFailed"

def taskFailed : String := "States.TaskFailed"

/-- Where a map stage leads: on with the rest of the plan, or to the end of the execution. -/
def afterMap {α : Type} (r : Run) (stage : Stage) (report : FanOutReport String α)
    (rest : List Work) : Run :=
  match report.toExcept with
  | .ok _ => { r with todo := rest }
  | .error f =>
    { r with
      todo := [.note "MapStateFailed" stage]
      failure := some (taskFailed, f.item ++ ": " ++ f.error) }

/-- Each repository with its build, once every deploy has succeeded. -/
def deployed (r : Run) : List (String × Build) :=
  ((r.deploys.report?.map FanOutReport.toExcept).bind Except.toOption).getD []

def outputElement (entry : String × Build) : OutputElement :=
  [(entry.1, .object [(entry.2.id, .object entry.2.outputs.entries)])]

def outputJson (input : PipelineInput) (deployed : List (String × Build)) : Json :=
  .object [
    ("repositories", .array (input.repositories.map .string)),
    ("parameters", .object (input.parameters.map .string).entries),
    ("SerializedResult", .object [
      ("serializedEnvironmentalOverrides",
        .array ((buildVariables input.parameters).map BuildVariable.toJson))]),
    ("Result", .array (input.repositories.map fun repository =>
      .object [("repository", .string repository)])),
    ("DeploymentOutput", .object [("outputs", .array (deployed.map fun entry =>
      .object (outputElement entry)))])]

/-- The last event and the terminal status come together. -/
def finish (r : Run) (now : Instant) : Run :=
  match r.failure with
  | none =>
    let r := r.note "ExecutionSucceeded" none now
    { r with description := { r.description with
      status := .succeeded
      stopDate := some now
      output := some (outputJson r.input r.deployed).compact } }
  | some (error, cause) =>
    let r := r.note "ExecutionFailed" none now
    { r with description := { r.description with
      status := .failed
      stopDate := some now
      error := some error
      cause := some cause } }

/-- The machine after a step, if the step is one it can make. -/
def step? (r : Run) (step : Step) (now : Instant) : Option Run :=
  match r.todo, step with
  | .note type stage :: rest, .write => some { r.note type (some stage.name) now with todo := rest }
  | .pause :: rest, .wake => some { r with todo := rest }
  | .packages :: _, .beginPackage i => do
    let packages ← r.packages.begin? i
    some ({ r with packages }.note "MapIterationStarted" (r.packages.item? i) now)
  | .packages :: _, .endPackage i result => do
    let packages ← r.packages.settle? i result
    some ({ r with packages }.note (outcomeType result) (r.packages.item? i) now)
  | .packages :: rest, .leave => r.packages.report?.map fun report =>
    r.afterMap .packageItems report rest
  | .deploys :: _, .beginDeploy i => do
    let deploys ← r.deploys.begin? i
    some ({ r with deploys }.note "MapIterationStarted" (r.deploys.item? i) now)
  | .deploys :: _, .endDeploy i result => do
    let deploys ← r.deploys.settle? i result
    some ({ r with deploys }.note (outcomeType result) (r.deploys.item? i) now)
  | .deploys :: rest, .leave => r.deploys.report?.map fun report =>
    r.afterMap .deployItems report rest
  | [], .stop => if r.description.status.isTerminal then none else some (r.finish now)
  | _, _ => none

end Run

end Rollout.Local
