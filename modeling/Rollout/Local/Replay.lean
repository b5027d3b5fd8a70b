import Rollout.Execution.Basic

/-!
An engine that replays recorded answers: one execution, and for every poll one
description and one stretch of history. What it was asked is kept.
-/

namespace Rollout.Local

open Time (Instant)

/-- The answers to one poll. -/
structure Poll where
  description : Except EngineError (String × Option String × Option String × Option String)
  history : Except EngineError (List HistoryEvent)
  deriving Repr

inductive EngineCall where
  | start (stateMachine : String) (input : String)
  | history (limit : Nat)
  deriving DecidableEq, Repr

structure Replay where
  execution : ExecutionArn
  startError : Option EngineError := none
  polls : List Poll := []
  /-- What the history of the last description is answered with. -/
  current : Except EngineError (List HistoryEvent) := .ok []
  calls : List EngineCall := []
  deriving Repr

namespace Replay

def start (r : Replay) (stateMachine input : String) :
    Except EngineError StartedExecution × Replay :=
  let answer := match r.startError with
    | some e => .error e
    | none => .ok ⟨r.execution, .epoch⟩
  (answer, { r with calls := r.calls ++ [.start stateMachine input] })

def exhausted : String := "script exhausted"

def described (execution : ExecutionArn) :
    String × Option String × Option String × Option String →
      Except EngineError ExecutionDescription
  | (status, output, error, cause) =>
    match ExecutionStatus.ofReported? status with
    | some status => .ok ⟨execution, status, .epoch, none, output, error, cause⟩
    | none => .error (.unknownStatus execution.text status)

def describe (r : Replay) (execution : ExecutionArn) :
    Except EngineError ExecutionDescription × Replay :=
  match r.polls with
  | [] => (.error (.transport exhausted), r)
  | poll :: rest =>
    (poll.description.bind (described execution), { r with polls := rest, current := poll.history })

def history (r : Replay) (limit : Nat) : Except EngineError (List HistoryEvent) × Replay :=
  (r.current, { r with calls := r.calls ++ [.history limit] })

end Replay

end Rollout.Local
