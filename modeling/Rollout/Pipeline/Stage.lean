import Rollout.Json.Codec

/-!
The six stages of a deployment. The host writes the audit records; the engine
runs the four stages between them, two of them once per repository.
-/

namespace Rollout

inductive Stage where
  | auditInProgress
  | serializeParameters
  | packageItems
  | deployItems
  | aggregateOutputs
  | auditTerminal
  deriving DecidableEq, Repr

namespace Stage

def all : List Stage :=
  [.auditInProgress, .serializeParameters, .packageItems, .deployItems, .aggregateOutputs,
    .auditTerminal]

def runsOnHost : Stage → Bool
  | .auditInProgress | .auditTerminal => true
  | _ => false

def isFanOut : Stage → Bool
  | .packageItems | .deployItems => true
  | _ => false

def name : Stage → String
  | .auditInProgress => "AuditInProgress"
  | .serializeParameters => "SerializeParameters"
  | .packageItems => "PackageItems"
  | .deployItems => "DeployItems"
  | .aggregateOutputs => "AggregateOutputs"
  | .auditTerminal => "AuditTerminal"

def engineStages : List Stage := all.filter fun stage => !stage.runsOnHost

def ofName? (name : String) : Option Stage := all.find? (·.name == name)

def toJson (stage : Stage) : Json := .string stage.name

def decode : Decoder Stage := .variant ofName?

instance : Codec Stage := ⟨decode, toJson⟩

end Stage

end Rollout
