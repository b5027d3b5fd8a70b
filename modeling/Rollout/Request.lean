import Rollout.Credential.Requester
import Rollout.Entity
import Rollout.Json.Codec
import Rollout.Json.Printer

/-!
The request a caller submits, the checks made before anything outside is asked,
and what the caller's parameters become in the pipeline input.
-/

namespace Rollout

structure DeploymentRequest where
  environmentRef : String
  repositories : List String
  parameters : Dict Json
  actionType : String
  requester : Requester
  owner : Option String
  deriving Repr

namespace DeploymentRequest

def isBlankText (s : String) : Bool := (Text.trim s).isEmpty

/-- The checks in the order in which their failures are reported. -/
def validate (r : DeploymentRequest) : Except ValidationError Unit :=
  if isBlankText r.environmentRef then .error (.empty "environmentRef")
  else if r.repositories.isEmpty then .error (.empty "boilerplateRepositories")
  else if r.repositories.any isBlankText then .error (.empty "repository identifier")
  else if isBlankText r.actionType then .error (.empty "actionType")
  else if isBlankText r.requester.name then .error (.empty "requester.name")
  else (EntityRef.parse r.environmentRef).map fun _ => ()

/-- The caller's parameters as texts. -/
def textParameters (r : DeploymentRequest) : Dict String := r.parameters.map Json.asText

/-- The parameter that names the application in audit records. -/
def applicationKey : String := "APP_SHORT_NAME"

def actionName (r : DeploymentRequest) : String :=
  match r.parameters.get? applicationKey with
  | some (.string name) => if name.isEmpty then repositoryList else name
  | _ => repositoryList
where
  repositoryList : String := ",".intercalate r.repositories

/-- What audit records keep of a request: parameter names, never their values. -/
def summary (r : DeploymentRequest) : Json :=
  .object [
    ("environmentRef", .string r.environmentRef),
    ("repositories", .array (r.repositories.map .string)),
    ("actionType", .string r.actionType),
    ("parameterKeys", .array (r.parameters.keys.map .string))]

def toJson (r : DeploymentRequest) : Json :=
  .object ([
    ("environmentRef", .string r.environmentRef),
    ("boilerplateRepositories", .array (r.repositories.map .string)),
    ("inputParameters", .object r.parameters.entries),
    ("actionType", .string r.actionType),
    ("requester", r.requester.toJson)]
    ++ Json.optional "owner" (r.owner.map .string))

def decode : Decoder DeploymentRequest := fun depth doc => do
  let [environment, repositories, parameters, action, requester, owner] ← Decoder.record
    [["environmentRef"], ["boilerplateRepositories", "repositories"], ["inputParameters"],
      ["actionType"], ["requester"], ["owner"]] depth doc | none
  some {
    environmentRef := ← environment.required .string
    repositories := ← repositories.required (.list .string)
    parameters := ← parameters.withDefault (.dict .json) ∅
    actionType := ← action.required .string
    requester := ← requester.required Requester.decode
    owner := ← owner.optional .string }

instance : Codec DeploymentRequest := ⟨decode, toJson⟩

/-- The document without the values that a list of fields has too many. -/
def withoutExcess : Doc → Doc
  | .array items => .array ((items.take 6).modify 4 (Doc.takeItems 2))
  | .object fields => .object (fields.map fun (key, doc) =>
      (key, if key = some "requester".toList then doc.takeItems 2 else doc))
  | doc => doc

end DeploymentRequest

end Rollout
