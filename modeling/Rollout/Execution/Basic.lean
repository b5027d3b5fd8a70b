import Rollout.Json.Codec
import Rollout.Time.Format
import Rollout.Time.Reader
import Rollout.Validation

/-!
Executions as the workflow engine reports them: identifier, status, output and
step history.
-/

namespace Rollout

open Time (Instant)

def Decoder.instant : Decoder Instant := fun depth doc =>
  (Decoder.string depth doc).bind Instant.parse

def Json.instant (t : Instant) : Json := .string t.rfc3339

instance : Codec Instant := ⟨.instant, .instant⟩

structure ExecutionArn where
  text : String
  deriving DecidableEq, Repr

/-- The part after the last colon. -/
def lastSegment (s : String) : String :=
  String.ofList (s.toList.reverse.takeWhile (· != ':')).reverse

/-- The name the engine gave the execution. -/
def ExecutionArn.name (arn : ExecutionArn) : String := lastSegment arn.text

def ExecutionArn.toJson (arn : ExecutionArn) : Json := .string arn.text

def ExecutionArn.decode : Decoder ExecutionArn := fun depth doc =>
  (Decoder.string depth doc).map .mk

instance : Codec ExecutionArn := ⟨ExecutionArn.decode, ExecutionArn.toJson⟩

inductive ExecutionStatus where
  | running
  | succeeded
  | failed
  | timedOut
  | aborted
  deriving DecidableEq, Repr

namespace ExecutionStatus

def all : List ExecutionStatus := [.running, .succeeded, .failed, .timedOut, .aborted]

def isTerminal (s : ExecutionStatus) : Bool := s != .running

def text : ExecutionStatus → String
  | .running => "RUNNING"
  | .succeeded => "SUCCEEDED"
  | .failed => "FAILED"
  | .timedOut => "TIMED_OUT"
  | .aborted => "ABORTED"

def ofText? (s : String) : Option ExecutionStatus := all.find? (·.text == s)

/-- A status as an engine reports it. One that waits for a redrive has failed. -/
def ofReported? (s : String) : Option ExecutionStatus :=
  if s = "PENDING_REDRIVE" then some .failed else ofText? s

/-- As shown in progress lines: `Running`, `Timed_out`. -/
def capitalized (s : ExecutionStatus) : String :=
  match s.text.toList with
  | [] => ""
  | first :: rest => String.ofList (first :: rest.map Char.toLower)

def toJson (s : ExecutionStatus) : Json := .string s.text

def decode : Decoder ExecutionStatus := .variant ofText?

instance : Codec ExecutionStatus := ⟨decode, toJson⟩

end ExecutionStatus

/-- What goes wrong between the host and the engine. -/
inductive EngineError where
  | rejected (reason : String)
  | transport (reason : String)
  | executionNotFound (execution : String)
  | unknownStatus (execution : String) (status : String)
  deriving DecidableEq, Repr

def EngineError.message : EngineError → String
  | .rejected reason => "engine rejected the request: " ++ reason
  | .transport reason => "engine request failed: " ++ reason
  | .executionNotFound execution => "execution '" ++ execution ++ "' not found"
  | .unknownStatus execution status =>
    "execution status for '" ++ execution ++ "' cannot be determined (reported '" ++ status ++ "')"

instance : Failure EngineError where
  message := EngineError.message
  kind
    | .rejected _ => "Rejected"
    | .transport _ => "Transport"
    | .executionNotFound _ => "ExecutionNotFound"
    | .unknownStatus _ _ => "UnknownStatus"

structure StartedExecution where
  execution : ExecutionArn
  startDate : Instant
  deriving DecidableEq, Repr

namespace StartedExecution

def toJson (s : StartedExecution) : Json :=
  .object [("executionArn", s.execution.toJson), ("startDate", .instant s.startDate)]

def decode : Decoder StartedExecution := fun depth doc => do
  let [execution, start] ← Decoder.record [["executionArn"], ["startDate"]] depth doc | none
  some {
    execution := ← execution.required ExecutionArn.decode
    startDate := ← start.required .instant }

instance : Codec StartedExecution := ⟨decode, toJson⟩

end StartedExecution

structure ExecutionDescription where
  execution : ExecutionArn
  status : ExecutionStatus
  startDate : Instant
  stopDate : Option Instant
  /-- A JSON document, there once the execution has ended. -/
  output : Option String
  error : Option String
  cause : Option String
  deriving DecidableEq, Repr

namespace ExecutionDescription

def toJson (d : ExecutionDescription) : Json :=
  .object ([
    ("executionArn", d.execution.toJson),
    ("status", d.status.toJson),
    ("startDate", .instant d.startDate)]
    ++ Json.optional "stopDate" (d.stopDate.map .instant)
    ++ Json.optional "output" (d.output.map .string)
    ++ Json.optional "error" (d.error.map .string)
    ++ Json.optional "cause" (d.cause.map .string))

def decode : Decoder ExecutionDescription := fun depth doc => do
  let [execution, status, start, stop, output, error, cause] ← Decoder.record
    [["executionArn"], ["status"], ["startDate"], ["stopDate"], ["output"], ["error"], ["cause"]]
    depth doc | none
  some {
    execution := ← execution.required ExecutionArn.decode
    status := ← status.required ExecutionStatus.decode
    startDate := ← start.required .instant
    stopDate := ← stop.optional .instant
    output := ← output.optional .string
    error := ← error.optional .string
    cause := ← cause.optional .string }

instance : Codec ExecutionDescription := ⟨decode, toJson⟩

end ExecutionDescription

/-- One entry of the step history. -/
structure HistoryEvent where
  id : Int
  type : String
  timestamp : Instant
  /-- The state or item the event belongs to. -/
  detail : Option String
  deriving DecidableEq, Repr

namespace HistoryEvent

def toJson (e : HistoryEvent) : Json :=
  .object ([
    ("id", .int e.id),
    ("type", .string e.type),
    ("timestamp", .instant e.timestamp)]
    ++ Json.optional "detail" (e.detail.map .string))

def decode : Decoder HistoryEvent := fun depth doc => do
  let [id, type, timestamp, detail] ← Decoder.record
    [["id"], ["type"], ["timestamp"], ["detail"]] depth doc | none
  some {
    id := ← id.required .int64
    type := ← type.required .string
    timestamp := ← timestamp.required .instant
    detail := ← detail.optional .string }

instance : Codec HistoryEvent := ⟨decode, toJson⟩

end HistoryEvent

/-- An execution watched to its end, with the events seen on the way. -/
structure CompletedExecution where
  status : ExecutionStatus
  details : ExecutionDescription
  trace : List HistoryEvent
  deriving DecidableEq, Repr

namespace CompletedExecution

def toJson (c : CompletedExecution) : Json :=
  .object [
    ("status", c.status.toJson),
    ("details", c.details.toJson),
    ("trace", .array (c.trace.map HistoryEvent.toJson))]

def decode : Decoder CompletedExecution := fun depth doc => do
  let [status, details, trace] ← Decoder.record [["status"], ["details"], ["trace"]] depth doc
    | none
  some {
    status := ← status.required ExecutionStatus.decode
    details := ← details.required ExecutionDescription.decode
    trace := ← trace.required (.list HistoryEvent.decode) }

instance : Codec CompletedExecution := ⟨decode, toJson⟩

end CompletedExecution

end Rollout
