import Rollout.Dict
import Rollout.Yaml.Node

/-!
Typed readers of YAML trees. Every scalar can be read as a text. An omitted
value is an empty list or object where one is expected, and no value where one
is optional. Records may be written as lists of their fields in order.
-/

namespace Rollout.Yaml

abbrev Decoder (α : Type) := Node → Option α

/-- Where a record field was looked for. -/
inductive Field where
  | found (node : Node)
  /-- The mapping does not name the field. -/
  | unnamed
  /-- The sequence ended before the field. -/
  | cut

namespace Decoder

variable {α : Type}

def text : Decoder String
  | .scalar _ s => some s
  | _ => none

/-- A whole number that fits so many bits. -/
def natural (bits : Nat) : Decoder Nat
  | .scalar true s => unsigned? (Numeral.greatest bits) s
  | _ => none

def option (item : Decoder α) : Decoder (Option α)
  | .scalar true s => if isNull s then some none else (item (.scalar true s)).map some
  | node => (item node).map some

def list (item : Decoder α) : Decoder (List α)
  | .sequence items => items.mapM item
  | .scalar true "" => some []
  | _ => none

def entry (item : Decoder α) (pair : Node × Node) : Option (String × α) := do
  some (← text pair.1, ← item pair.2)

def dict (item : Decoder α) : Decoder (Dict α)
  | .mapping entries => (entries.mapM (entry item)).map Dict.ofList
  | .scalar true "" => some ∅
  | _ => none

/-- The value of a field; more than one is a fault. -/
def findField (name : String) : List (Node × Node) → Option (Option Node)
  | [] => some none
  | (key, node) :: rest => do
    let key ← text key
    let found ← findField name rest
    if key = name then
      match found with
      | none => some (some node)
      | some _ => none
    else some found

def mappingField (entries : List (Node × Node)) (name : String) : Option Field :=
  (findField name entries).map fun
    | some node => .found node
    | none => .unnamed

def sequenceFields : List String → List Node → Option (List Field)
  | [], [] => some []
  | [], _ :: _ => none
  | _ :: names, [] => (sequenceFields names []).map (.cut :: ·)
  | _ :: names, node :: nodes => (sequenceFields names nodes).map (.found node :: ·)

/-- The fields of a record, in the order of `names`. -/
def record (names : List String) : Decoder (List Field)
  | .mapping entries => names.mapM (mappingField entries)
  | .sequence items => sequenceFields names items
  | .scalar true "" => some (names.map fun _ => .unnamed)
  | _ => none

end Decoder

namespace Field

variable {α : Type}

def required (field : Field) (item : Decoder α) : Option α :=
  match field with
  | found node => item node
  | _ => none

def withDefault (field : Field) (item : Decoder α) (default : α) : Option α :=
  match field with
  | found node => item node
  | _ => some default

/-- A sequence has to name the field. -/
def nullable (field : Field) (item : Decoder α) : Option (Option α) :=
  match field with
  | found node => item.option node
  | unnamed => some none
  | cut => none

end Field

end Rollout.Yaml
