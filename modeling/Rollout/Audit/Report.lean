import Rollout.Json.Codec

/-!
How the two audit writes of a deployment went. A failed write is reported next
to the result and never replaces it.
-/

namespace Rollout

/-- One write: the id of the written record, or why there is none. -/
structure AuditOutcome where
  succeeded : Bool
  message : String
  recordId : Option String
  deriving DecidableEq, Repr

namespace AuditOutcome

def success (recordId : String) : AuditOutcome := ⟨true, "", some recordId⟩

def failure (message : String) : AuditOutcome := ⟨false, message, none⟩

def statusText : Bool → String
  | true => "Success"
  | false => "FAILED"

def ofStatus? (s : String) : Option Bool := [true, false].find? fun b => statusText b == s

def toJson (o : AuditOutcome) : Json :=
  .object ([
    ("status", .string (statusText o.succeeded)),
    ("message", .string o.message)]
    ++ Json.optional "record_id" (o.recordId.map .string))

def decode : Decoder AuditOutcome := fun depth doc => do
  let [status, message, recordId] ← Decoder.record
    [["status"], ["message"], ["record_id"]] depth doc | none
  some {
    succeeded := ← status.required (.variant ofStatus?)
    message := ← message.required .string
    recordId := ← recordId.optional .string }

instance : Codec AuditOutcome := ⟨decode, toJson⟩

end AuditOutcome

structure AuditReport where
  inProgress : Option AuditOutcome
  terminal : Option AuditOutcome
  deriving DecidableEq, Repr

/-- An audit write that failed, and which of the two it was. -/
structure AuditFailure where
  write : String
  message : String
  deriving DecidableEq, Repr

def AuditFailure.text (f : AuditFailure) : String :=
  "audit write failed (" ++ f.write ++ "): " ++ f.message

namespace AuditReport

def failure? (write : String) : Option AuditOutcome → Option AuditFailure
  | some outcome => if outcome.succeeded then none else some ⟨write, outcome.message⟩
  | none => none

def failures (r : AuditReport) : List AuditFailure :=
  [failure? "IN PROGRESS" r.inProgress, failure? "terminal" r.terminal].filterMap id

def toJson (r : AuditReport) : Json :=
  .object (Json.optional "inProgress" (r.inProgress.map AuditOutcome.toJson)
    ++ Json.optional "terminal" (r.terminal.map AuditOutcome.toJson))

def decode : Decoder AuditReport := fun depth doc => do
  let [inProgress, terminal] ← Decoder.record [["inProgress"], ["terminal"]] depth doc | none
  some {
    inProgress := ← inProgress.nullable AuditOutcome.decode
    terminal := ← terminal.nullable AuditOutcome.decode }

instance : Codec AuditReport := ⟨decode, toJson⟩

end AuditReport

end Rollout
