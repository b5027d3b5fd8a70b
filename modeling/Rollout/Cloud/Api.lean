import Rollout.Target
import Rollout.Time.Epoch

/-!
Requests to the cloud's services and how their answers are read. A member of an
answer that is missing counts like one that is null.
-/

namespace Rollout.Cloud

open Time (Instant)

structure Request where
  /-- Service and operation, for the services that name them apart from the body. -/
  target : Option String
  body : Json
  /-- The region it is signed for; `none` is the platform's own. -/
  region : Option Region
  deriving Repr

inductive Reply where
  | accepted (body : Json)
  | refused (code : String)
  | unreachable
  deriving Repr

/-- Why a request has no answer to read. -/
inductive Fault where
  | refused (code : String)
  | unreadable
  | unreachable
  deriving DecidableEq, Repr

namespace Fault

def message : Fault → String
  | refused code => "service error: " ++ code
  | unreadable => "response error"
  | unreachable => "dispatch failure"

/-- The code alone, without the namespace before it and the address after it. -/
def plainCode (code : String) : String :=
  let bare := code.toList.takeWhile (· != ':')
  match bare.dropWhile (· != '#') with
  | [] => String.ofList bare
  | _ :: name => String.ofList name

end Fault

def Reply.body : Reply → Except Fault Json
  | accepted (.object fields) => .ok (.object fields)
  | accepted _ => .error .unreadable
  | refused code => .error (.refused (Fault.plainCode code))
  | unreachable => .error .unreachable

variable {α : Type}

def member (read : Json → Option α) (name : String) (doc : Json) : Except Fault (Option α) :=
  match doc.field? name with
  | none | some .null => .ok none
  | some value =>
    match read value with
    | some found => .ok (some found)
    | none => .error .unreadable

def textMember : String → Json → Except Fault (Option String) := member Json.string?

def record? : Json → Option Json
  | .object fields => some (.object fields)
  | _ => none

def recordMember : String → Json → Except Fault (Option Json) := member record?

def listMember (name : String) (doc : Json) : Except Fault (List Json) :=
  return (← member items? name doc).getD []
where
  items? : Json → Option (List Json)
    | .array items => some (items.filter fun | .null => false | _ => true)
    | _ => none

def number? : Json → Option JsonNumber
  | .number n => some n
  | _ => none

/-- A time of the calendar; one beyond its range counts like a missing one. -/
def timeMember (name : String) (doc : Json) : Except Fault (Option Instant) :=
  return (← member number? name doc).bind Instant.ofNumber?

end Rollout.Cloud
