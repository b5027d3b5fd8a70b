import Rollout.Cloud.Api
import Rollout.Credential.Grant
import Rollout.Execution.Basic

/-!
Executions of the target account's state machine. The history is asked for with
the latest events first, so that a window always holds them, and turned round.
-/

namespace Rollout.Cloud.StateMachine

open Time (Instant)

def request (grant : Grant) (operation : String) (fields : List (String × Json)) : Request :=
  { target := some ("AWSStepFunctions." ++ operation)
    body := .object fields
    region := some grant.region }

def startRequest (grant : Grant) (stateMachine input : String) : Request :=
  request grant "StartExecution"
    [("stateMachineArn", .string stateMachine), ("input", .string input)]

def describeRequest (grant : Grant) (execution : ExecutionArn) : Request :=
  request grant "DescribeExecution" [("executionArn", execution.toJson)]

/-- The service answers with a thousand events at most. -/
def longestWindow : Nat := 1000

def historyRequest (grant : Grant) (execution : ExecutionArn) (limit : Nat) : Request :=
  request grant "GetExecutionHistory" [
    ("executionArn", execution.toJson),
    ("maxResults", .nat (min limit longestWindow)),
    ("reverseOrder", .bool true)]

/-- A date that is missing; one that is no date of the calendar counts as `now`. -/
def dateMember (name : String) (now : Instant) (doc : Json) : Except Fault Instant := do
  match ← member number? name doc with
  | none => return .epoch
  | some n => return (Instant.ofNumber? n).getD now

def startedOf (now : Instant) (doc : Json) : Except Fault StartedExecution :=
  return ⟨⟨(← textMember "executionArn" doc).getD ""⟩, ← dateMember "startDate" now doc⟩

def readStarted (now : Instant) (reply : Reply) : Except EngineError StartedExecution :=
  match reply.body >>= startedOf now with
  | .ok started => .ok started
  | .error (.refused code) => .error (.rejected (Fault.refused code).message)
  | .error fault => .error (.transport fault.message)

/-- How a fault on a request about an execution is told. -/
def faultOf (execution : ExecutionArn) : Fault → EngineError
  | .refused "ExecutionDoesNotExist" => .executionNotFound execution.text
  | fault => .transport fault.message

/-- What stands for a name that an answer leaves out. -/
def unnamed : String := "no value was set"

structure Described where
  status : String
  startDate : Instant
  stopDate : Option Instant
  output : Option String
  error : Option String
  cause : Option String

def describedOf (now : Instant) (doc : Json) : Except Fault Described := do
  return {
    status := (← textMember "status" doc).getD unnamed
    startDate := ← dateMember "startDate" now doc
    stopDate := ← timeMember "stopDate" doc
    output := ← textMember "output" doc
    error := ← textMember "error" doc
    cause := ← textMember "cause" doc }

/-- The description names the execution that was asked for. -/
def readDescription (now : Instant) (execution : ExecutionArn) (reply : Reply) :
    Except EngineError ExecutionDescription :=
  match reply.body >>= describedOf now with
  | .error fault => .error (faultOf execution fault)
  | .ok d =>
    match ExecutionStatus.ofReported? d.status with
    | none => .error (.unknownStatus execution.text d.status)
    | some status => .ok {
        execution, status
        startDate := d.startDate
        stopDate := d.stopDate
        output := d.output
        error := d.error
        cause := d.cause }

/-- The state or item an event is about, or the error it ended with. -/
def detailOf (event : Json) : Except Fault (Option String) := do
  let entered ← recordMember "stateEnteredEventDetails" event
  let exited ← recordMember "stateExitedEventDetails" event
  let iteration ← recordMember "mapIterationStartedEventDetails" event
  let failed ← recordMember "executionFailedEventDetails" event
  let text := fun name details => (textMember name details).toOption.join
  return (entered.map fun d => (text "name" d).getD "")
    |>.or (exited.map fun d => (text "name" d).getD "")
    |>.or (iteration.bind (text "name"))
    |>.or (failed.bind (text "error"))

def within64? (n : Int) : Option Int :=
  if Numeral.leastSigned 64 ≤ n && n ≤ Numeral.greatestSigned 64 then some n else none

/-- A whole number, also where it is written with a fraction of zero. -/
def idOf? : Json → Option Int
  | .number (.int n) => within64? n
  | .number (.float x) => x.whole?.bind within64?
  | _ => none

def eventOf (now : Instant) (event : Json) : Except Fault HistoryEvent := do
  return {
    id := (← member idOf? "id" event).getD 0
    type := (← textMember "type" event).getD unnamed
    timestamp := ← dateMember "timestamp" now event
    detail := ← detailOf event }

def eventsOf (now : Instant) (doc : Json) : Except Fault (List HistoryEvent) := do
  return (← (← listMember "events" doc).mapM (eventOf now)).reverse

def readHistory (now : Instant) (execution : ExecutionArn) (reply : Reply) :
    Except EngineError (List HistoryEvent) :=
  (reply.body >>= eventsOf now).mapError (faultOf execution)

end Rollout.Cloud.StateMachine
