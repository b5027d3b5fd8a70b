import Rollout.Api.MediaType
import Rollout.Deployment.Outcome
import Rollout.Json.Reader
import Rollout.Request

/-!
The HTTP interface: `POST /deploy` runs a deployment and `GET /health` says
that the service is up. Every failure of a deployment has a status of its own
kind and a JSON body.
-/

namespace Rollout.Api

structure HttpRequest where
  method : String
  path : String
  contentType : Option String
  body : String
  deriving DecidableEq, Repr

structure HttpResponse where
  status : Nat
  body : Option Json
  deriving Repr

def version : String := "0.4.0"

def health : Json := .object [("status", .string "ok"), ("version", .string version)]

def statusOf : DeploymentError → Nat
  | .validation _ => 400
  | .federation _ => 403
  | .parameter (.notFound _) => 404
  | .parameter (.transport _ _) => 502
  | .catalog (.environmentNotFound _) => 404
  | .catalog (.noProviders _) => 404
  | .catalog _ => 502
  | .start .. => 502
  | .execution .. => 502
  | .monitor .. => 502
  | .output .. => 502

/-- The fields of a failure that say how far the deployment got. -/
def failureDetails : DeploymentError → List (String × Json)
  | .execution _ status trace _ =>
    [("status", status.toJson), ("trace", .array (trace.map HistoryEvent.toJson))]
  | _ => []

def failureBody (e : DeploymentError) : Json :=
  .object ([("error", .string e.message), ("kind", .string e.kind)]
    ++ Json.optional "executionArn" (e.execution?.map ExecutionArn.toJson)
    ++ failureDetails e
    ++ Json.optional "audit" (e.audit?.map AuditReport.toJson))

def respond : Except DeploymentError DeploymentResult → HttpResponse
  | .ok result => ⟨200, some result.toJson⟩
  | .error e => ⟨statusOf e, some (failureBody e)⟩

/-- What a request leads to: an answer at once, or a deployment. -/
inductive Routed where
  | answered (response : HttpResponse)
  | deploy (request : DeploymentRequest)

def refused (status : Nat) : Routed := .answered ⟨status, none⟩

def acceptsJson (contentType : Option String) : Bool :=
  ((contentType.bind MediaType.parse?).map MediaType.isJson).getD false

def requestOf? : Doc → Option DeploymentRequest := DeploymentRequest.decode Doc.deepest

/-- JSON of another shape cannot be processed, but a list of fields that does not end where it
has to counts as no JSON. -/
def misfitStatus (doc : Doc) : Nat :=
  if (doc.toJson? Doc.deepest).isNone then 400
  else if (requestOf? (DeploymentRequest.withoutExcess doc)).isSome then 400
  else 422

/-- A body that is no JSON is a bad request; what follows the value is looked at last. -/
def readRequest (body : String) : Routed :=
  match Doc.readFront body.toList with
  | none => refused 400
  | some (doc, rest) =>
    match requestOf? doc with
    | some request => if rest.isEmpty then .deploy request else refused 400
    | none => refused (misfitStatus doc)

def deployRoute (r : HttpRequest) : Routed :=
  if r.method != "POST" then refused 405
  else if acceptsJson r.contentType then readRequest r.body
  else refused 415

def healthRoute (r : HttpRequest) : Routed :=
  if r.method == "GET" then .answered ⟨200, some health⟩
  else if r.method == "HEAD" then .answered ⟨200, none⟩
  else refused 405

def route (r : HttpRequest) : Routed :=
  let path := String.ofList (r.path.toList.takeWhile (· != '?'))
  if path == "/deploy" then deployRoute r
  else if path == "/health" then healthRoute r
  else refused 404

end Rollout.Api
