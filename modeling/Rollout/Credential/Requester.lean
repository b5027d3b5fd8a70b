import Rollout.Json.Codec

/-!
Who a deployment runs for, and the groups that may stand for a role.
-/

namespace Rollout

structure Requester where
  name : String
  groups : List String
  deriving DecidableEq, Repr

namespace Requester

/-- The group every user belongs to; it never stands for a role. -/
def everyone : String := "everyone"

def equalsIgnoringAsciiCase (a b : String) : Bool := a.map Char.toLower == b.map Char.toLower

def mappableGroups (r : Requester) : List String :=
  r.groups.filter fun group => !equalsIgnoringAsciiCase group everyone

def toJson (r : Requester) : Json :=
  .object [("name", .string r.name), ("groups", .array (r.groups.map .string))]

def decode : Decoder Requester := fun depth doc => do
  let [name, groups] ← Decoder.record [["name"], ["groups"]] depth doc | none
  some {
    name := ← name.required .string
    groups := ← groups.withDefault (.list .string) [] }

instance : Codec Requester := ⟨decode, toJson⟩

end Requester

end Rollout
