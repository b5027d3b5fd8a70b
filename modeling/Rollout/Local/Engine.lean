import Rollout.Local.Execution
import Rollout.Target

/-!
The local engine: executions by identifier, and the finished ones in the order
in which they ended. Only so many finished executions are kept; when one more
ends, the one that ended first is dropped. Running executions are never dropped.
-/

namespace Rollout.Local

open Time (Instant)

structure Engine where
  executions : List (String × Run) := []
  /-- Finished executions still kept, oldest first. -/
  finished : List String := []
  retention : Nat := 64
  deriving Repr, Inhabited

namespace Engine

/-- Finished executions kept at most; at least one. -/
def limit (e : Engine) : Nat := max 1 e.retention

def count (e : Engine) : Nat := e.executions.length

def run? (e : Engine) (execution : String) : Option Run := e.executions.lookup execution

def store (e : Engine) (execution : String) (run : Run) : Engine :=
  { e with executions := upsert execution run e.executions }

def executionArn (region : Region) (account : AccountId) (name id : String) : ExecutionArn :=
  ⟨"arn:aws:states:" ++ region.text ++ ":" ++ account.text ++ ":execution:" ++ name ++ ":" ++ id⟩

/-- What a start asks for: a named state machine and an input it can read. -/
def accept (stateMachine input : String) : Except EngineError (String × PipelineInput) :=
  let name := lastSegment stateMachine
  if name.isEmpty then .error (.rejected ("invalid state machine '" ++ stateMachine ++ "'"))
  else
    match PipelineInput.decode.readText input with
    | some input => .ok (name, input)
    | none => .error (.rejected "invalid execution input: not a pipeline input")

/-- Starts an execution under a new identifier; a refused start changes nothing. -/
def start (e : Engine) (region : Region) (account : AccountId) (stateMachine input id : String)
    (now : Instant) : Except EngineError StartedExecution × Engine :=
  match accept stateMachine input with
  | .error reason => (.error reason, e)
  | .ok (name, input) =>
    let execution := executionArn region account name id
    (.ok ⟨execution, now⟩, e.store execution.text (.start execution input now))

def describe (e : Engine) (execution : ExecutionArn) : Except EngineError ExecutionDescription :=
  match e.run? execution.text with
  | some run => .ok run.description
  | none => .error (.executionNotFound execution.text)

/-- The last events of an execution, oldest first. -/
def history (e : Engine) (execution : ExecutionArn) (limit : Nat) :
    Except EngineError (List HistoryEvent) :=
  match e.run? execution.text with
  | some run => .ok (run.events.drop (run.events.length - limit))
  | none => .error (.executionNotFound execution.text)

/-- Lines up a finished execution and drops what is beyond the limit. -/
def retire (e : Engine) (execution : String) : Engine :=
  let finished := e.finished ++ [execution]
  let beyond := finished.length - e.limit
  { e with
    executions := e.executions.filter fun entry => !(finished.take beyond).contains entry.1
    finished := finished.drop beyond }

/-- The engine after one of its executions has made a step. -/
def step? (e : Engine) (execution : String) (step : Step) (now : Instant) : Option Engine := do
  let run ← e.run? execution
  let moved ← run.step? step now
  let stored := e.store execution moved
  match step with
  | .stop => some (stored.retire execution)
  | _ => some stored

end Engine

end Rollout.Local
