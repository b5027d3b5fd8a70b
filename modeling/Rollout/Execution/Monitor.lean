import Rollout.Deployment.Program
import Rollout.Execution.Cursor

/-!
Watching an execution until it ends. A poll describes the execution, then reads
the trailing window of its history and shows the new events; while it runs, a
pause follows, and every few polls a heartbeat with one more dot than the last
since something new was seen. There is no limit on the time an execution may
take, so the number of polls is a parameter.
-/

namespace Rollout

structure MonitorSettings where
  pollIntervalMs : Nat
  historyWindow : Nat
  heartbeatEvery : Nat
  deriving DecidableEq, Repr

namespace Monitor

structure State where
  cursor : HistoryCursor := {}
  trace : List HistoryEvent := []
  polls : UInt32 := 0
  dots : Nat := 0
  lastType : String := ""
  deriving DecidableEq, Repr, Inhabited

def showAll (status : ExecutionStatus) : List HistoryEvent → Program Unit
  | [] => .done ()
  | event :: rest => .ask (.showEvent status event) fun _ => showAll status rest

/-- The state after a poll that saw `window`, and the events new in it. -/
def State.observe (s : State) (window : List HistoryEvent) : List HistoryEvent × State :=
  let (fresh, cursor) := s.cursor.takeNew window
  (fresh, {
    cursor
    trace := s.trace ++ fresh
    polls := s.polls + 1
    dots := if fresh.isEmpty then s.dots else 0
    lastType := (window.getLast?.map HistoryEvent.type).getD s.lastType })

def State.heartbeatDue (s : State) (settings : MonitorSettings) : Bool :=
  s.polls.toNat % settings.heartbeatEvery == 0

/-- The pause after a poll that found the execution running. -/
def pause (settings : MonitorSettings) (s : State) (status : ExecutionStatus) : Program State :=
  .ask (.sleep settings.pollIntervalMs) fun _ =>
    if s.heartbeatDue settings then
      .ask (.showHeartbeat status s.cursor.previous s.lastType (s.dots + 1)) fun _ =>
        .done { s with dots := s.dots + 1 }
    else .done s

/-- One poll: either the execution has ended, or an engine call failed, or the next state. -/
def poll (settings : MonitorSettings) (grant : Grant) (execution : ExecutionArn) (s : State) :
    Program (Except EngineError (CompletedExecution ⊕ State)) := do
  match ← Program.call (.describe grant execution) with
  | .error e => return .error e
  | .ok details =>
    match ← Program.call (.history grant execution settings.historyWindow) with
    | .error e => return .error e
    | .ok window =>
      let (fresh, s) := s.observe window
      showAll details.status fresh
      if details.status.isTerminal then
        return .ok (.inl { status := details.status, details, trace := s.trace })
      else return .ok (.inr (← pause settings s details.status))

/-- Polls at most `polls` times from a state on. -/
def watch (settings : MonitorSettings) (grant : Grant) (execution : ExecutionArn) :
    Nat → State → Program (Except EngineError CompletedExecution)
  | 0, _ => .unfinished
  | polls + 1, s => do
    match ← poll settings grant execution s with
    | .error e => return .error e
    | .ok (.inl completed) => return .ok completed
    | .ok (.inr s) => watch settings grant execution polls s

def awaitCompletion (settings : MonitorSettings) (grant : Grant) (execution : ExecutionArn)
    (polls : Nat) : Program (Except EngineError CompletedExecution) :=
  watch settings grant execution polls {}

/-- The line an event is shown as. -/
def eventLine (status : ExecutionStatus) (event : HistoryEvent) : String :=
  status.capitalized ++ " step " ++ toString event.id ++ ": " ++ event.type

def heartbeatLine (status : ExecutionStatus) (lastId : Int) (lastType : String) (dots : Nat) :
    String :=
  status.capitalized ++ " step " ++ toString lastId ++ ": " ++ lastType
    ++ String.ofList (List.replicate dots '.')

end Monitor

end Rollout
