import Rollout.Entity
import Rollout.Json.Codec
import Rollout.Json.Printer
import Rollout.Provider

/-!
Entities as the catalog describes them, and the provider an entity stands for.
An entity that lacks one of the required metadata entries stands for none.
-/

namespace Rollout.Catalog

structure Relation where
  type : String
  target : String
  deriving DecidableEq, Repr

structure Entity where
  metadata : Dict Json
  relations : List Relation
  deriving Repr

def Relation.decode : Decoder Relation := fun depth doc => do
  let [type, target] ← Decoder.record [["type"], ["targetRef"]] depth doc | none
  some { type := ← type.required .string, target := ← target.required .string }

namespace Entity

def decode : Decoder Entity := fun depth doc => do
  let [metadata, relations] ← Decoder.record [["metadata"], ["relations"]] depth doc | none
  some {
    metadata := ← metadata.required (.dict .json)
    relations := ← relations.withDefault (.list Relation.decode) [] }

def dependencyRelation : String := "dependencyOf"

/-- The entity depends on the target, and the target is a provider. -/
def isProviderRelation (r : Relation) : Bool :=
  r.type = dependencyRelation && EntityRef.providerKind.toList.isPrefixOf r.target.toList

/-- The providers an environment names, in the order it names them. -/
def providerRefs (e : Entity) : List String :=
  (e.relations.filter isProviderRelation).map Relation.target

/-- A metadata entry as text; what is no text is written as compact JSON. -/
def text? (e : Entity) (key : String) : Option String := (e.metadata.get? key).map Json.asText

def provider? (e : Entity) (environment : String) : Option Provider := do
  let providerName ← e.text? "name"
  let accountId ← e.text? "aws-account"
  let region ← e.text? "aws-region"
  let vpcPath ← e.text? "vpc"
  let clusterPath ← e.text? "cluster-name"
  some { accountId, region, vpcPath, clusterPath, environmentName := environment, providerName }

/-- The items of an answer; those the catalog could not find are null. -/
def decodeItems : Decoder (List Entity) := fun depth doc => do
  let [items] ← Decoder.record [["items"]] depth doc | none
  let found ← items.required (.list (.option decode))
  some (found.filterMap id)

end Entity

end Rollout.Catalog
