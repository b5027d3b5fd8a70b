import Rollout.Json.Codec
import Rollout.Json.Printer
import Rollout.Output.KebabCase

/-!
The outputs of a finished execution, flattened. Its output document lists per
repository and execution what was exported; exports whose name starts with the
reserved word are kept under their kebab-case name, and of several with one
name the last in document order.
-/

namespace Rollout

/-- One element of the output list: item, then execution, then exported value. -/
abbrev OutputElement := List (String × Json)

inductive OutputError where
  /-- The text is not an output document; the parser's words on it are kept. -/
  | unreadable (reason : String)
  /-- The value at the path is not an object. -/
  | notAnObject (path : String)
  deriving DecidableEq, Repr

def OutputError.message : OutputError → String
  | .unreadable reason => "execution output is not a valid deployment output document: " ++ reason
  | .notAnObject path => "execution output entry '" ++ path ++ "' must be an object"

structure OutputDocument where
  outputs : List OutputElement
  deriving Repr

namespace OutputDocument

def outputsJson (outputs : List OutputElement) : Json :=
  .object [("outputs", .array (outputs.map .object))]

def toJson (d : OutputDocument) : Json := .object [("DeploymentOutput", outputsJson d.outputs)]

def decodeOutputs : Decoder (List OutputElement) := fun depth doc => do
  let [outputs] ← Decoder.record [["outputs"]] depth doc | none
  outputs.withDefault (.list (.fields .json)) []

def decode : Decoder OutputDocument := fun depth doc => do
  let [output] ← Decoder.record [["DeploymentOutput"]] depth doc | none
  some { outputs := ← output.required decodeOutputs }

instance : Codec OutputDocument := ⟨decode, toJson⟩

end OutputDocument

namespace Output

def defaultReserved : String := "baws"

def objectAt (path : String) : Json → Except OutputError (List (String × Json))
  | .object fields => .ok fields
  | _ => .error (.notAnObject path)

/-- The exports of one item, execution by execution. -/
def itemLeaves (item : String) : List (String × Json) → Except OutputError (List (String × Json))
  | [] => .ok []
  | (execution, values) :: rest => do
    let leaves ← objectAt (item ++ "." ++ execution) values
    return leaves ++ (← itemLeaves item rest)

def elementLeaves : OutputElement → Except OutputError (List (String × Json))
  | [] => .ok []
  | (item, executions) :: rest => do
    let leaves ← itemLeaves item (← objectAt item executions)
    return leaves ++ (← elementLeaves rest)

/-- Every export in document order. -/
def leaves : List OutputElement → Except OutputError (List (String × Json))
  | [] => .ok []
  | element :: rest => do
    let found ← elementLeaves element
    return found ++ (← leaves rest)

def isReserved (reserved : String) (leaf : String × Json) : Bool :=
  reserved.toList.isPrefixOf leaf.1.toList

/-- Reserved exports under the names they are handed on with. -/
def kept (reserved : String) (found : List (String × Json)) : List (String × String) :=
  (found.filter (isReserved reserved)).map fun leaf => (kebabCase leaf.1, leaf.2.asText)

def aggregate (reserved : String) (outputs : List OutputElement) :
    Except OutputError (Dict String) :=
  (leaves outputs).map fun found => Dict.ofList (kept reserved found)

/-- An execution without output has no values. -/
def aggregateText (reserved : String) (output : Option String) :
    Except OutputError (Dict String) :=
  match output with
  | none => .ok ∅
  | some text =>
    match OutputDocument.decode.readText text with
    | some document => aggregate reserved document.outputs
    | none => .error (.unreadable "not a deployment output document")

end Output

end Rollout
