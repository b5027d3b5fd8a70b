import Rollout.Json.Printer
import Rollout.Yaml.Style

/-!
A YAML document as a tree. A scalar is its text and whether it was written
plain, since only plain scalars stand for anything but texts.
-/

namespace Rollout.Yaml

inductive Node where
  | scalar (plain : Bool) (text : String)
  | sequence (items : List Node)
  | mapping (entries : List (Node × Node))
  deriving Repr, Inhabited

namespace Node

/-- An omitted value. -/
def omitted : Node := .scalar true ""

def ofText (s : String) : Node := .scalar (Style.ofText s == .plain) s

mutual
/-- The tree that a printed value is read back as. -/
def ofJson : Json → Node
  | .null => .scalar true "null"
  | .bool b => .scalar true (Json.bool b).compact
  | .number n => .scalar true (Json.number n).compact
  | .string s => ofText s
  | .array items => .sequence (ofItems items)
  | .object fields => .mapping (ofFields fields)

def ofItems : List Json → List Node
  | [] => []
  | item :: rest => ofJson item :: ofItems rest

def ofFields : List (String × Json) → List (Node × Node)
  | [] => []
  | (key, item) :: rest => (ofText key, ofJson item) :: ofFields rest
end

end Node

end Rollout.Yaml
