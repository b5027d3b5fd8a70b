import Rollout.Json.Codec
import Rollout.Json.Printer

/-!
The document an execution starts from, and the variables its parameters become
for the build of each repository.
-/

namespace Rollout

structure PipelineInput where
  repositories : List String
  parameters : Dict String
  deriving DecidableEq, Repr

namespace PipelineInput

def toJson (input : PipelineInput) : Json :=
  .object [
    ("repositories", .array (input.repositories.map .string)),
    ("parameters", .object (input.parameters.map .string).entries)]

def text (input : PipelineInput) : String := input.toJson.compact

/-- The document as it is handed to the engine, or why it cannot be written. -/
def encoded (input : PipelineInput) : Except String String := .ok input.text

def decode : Decoder PipelineInput := fun depth doc => do
  let [repositories, parameters] ← Decoder.record [["repositories"], ["parameters"]] depth doc
    | none
  some {
    repositories := ← repositories.required (.list .string)
    parameters := ← parameters.required (.dict .string) }

instance : Codec PipelineInput := ⟨decode, toJson⟩

end PipelineInput

structure BuildVariable where
  name : String
  value : String
  kind : String
  deriving DecidableEq, Repr

namespace BuildVariable

def plaintext : String := "PLAINTEXT"

def toJson (v : BuildVariable) : Json :=
  .object [("Name", .string v.name), ("Value", .string v.value), ("Type", .string v.kind)]

def decode : Decoder BuildVariable := fun depth doc => do
  let [name, value, kind] ← Decoder.record [["Name"], ["Value"], ["Type"]] depth doc | none
  some {
    name := ← name.required .string
    value := ← value.required .string
    kind := ← kind.required .string }

instance : Codec BuildVariable := ⟨decode, toJson⟩

end BuildVariable

/-- One variable per parameter, in order of names. -/
def buildVariables (parameters : Dict String) : List BuildVariable :=
  parameters.entries.map fun (name, value) => ⟨name, value, BuildVariable.plaintext⟩

end Rollout
