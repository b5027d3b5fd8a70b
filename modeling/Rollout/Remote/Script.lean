import Rollout.Cloud.Api
import Rollout.Http.Message
import Rollout.Json.Printer
import Rollout.Json.Decode

/-!
Remote services that give prepared answers, one per request and in order, and
keep what they were asked. A request past the last answer is refused.
-/

namespace Rollout.Remote

inductive Answer where
  | http (status : Nat) (body : String)
  | accepted (body : Json)
  | refused (code : String)
  deriving Repr

inductive Asked where
  | http (request : Http.Request)
  | cloud (request : Cloud.Request)
  deriving Repr

structure Script where
  answers : List Answer := []
  /-- Oldest first. -/
  asked : List Asked := []
  deriving Repr

def exhausted : Answer := .refused "ScriptExhausted"

def refusal (code : String) : Json := .object [("__type", .string code)]

def Answer.toHttp : Answer → Http.Reply
  | .http status body => .answered status body
  | .accepted body => .answered 200 body.compact
  | .refused code => .answered 400 (refusal code).compact

def Answer.toCloud : Answer → Cloud.Reply
  | .http status body =>
    if Http.isSuccess status then .accepted ((Json.parse body).getD .null) else .refused ""
  | .accepted body => .accepted body
  | .refused code => .refused code

def Script.next (s : Script) (asked : Asked) : Answer × Script :=
  (s.answers.head?.getD exhausted, ⟨s.answers.drop 1, s.asked ++ [asked]⟩)

def sendHttp (request : Http.Request) : StateM Script Http.Reply := fun s =>
  let (answer, s) := s.next (.http request)
  (answer.toHttp, s)

def sendCloud (request : Cloud.Request) : StateM Script Cloud.Reply := fun s =>
  let (answer, s) := s.next (.cloud request)
  (answer.toCloud, s)

/-- An answer as a document: `status` and `body`, `errorCode`, or `response`. -/
def Answer.decode : Decoder Answer := fun depth doc => do
  let [status, body, code, response] ← Decoder.record
    [["status"], ["body"], ["errorCode"], ["response"]] depth doc | none
  match ← code.optional .string, status with
  | some code, _ => some (.refused code)
  | none, .found _ _ =>
    some (.http (← status.required (.int 0 999)).toNat (← body.withDefault .string ""))
  | none, _ => some (.accepted (← response.withDefault .json (.object [])))

end Rollout.Remote
