import Rollout.Catalog.Entity
import Rollout.Deployment.Outcome
import Rollout.Http.Message
import Rollout.Json.Printer

/-!
The catalog behind a portal. An environment is looked up by name, and the
providers it depends on by one further request, made only if there are any.
-/

namespace Rollout.Catalog

open Http (Request Reply Url)

structure Portal where
  base : String
  token : Option String
  deriving DecidableEq, Repr

namespace Portal

def ofBase (base : String) (token : Option String) : Portal :=
  ⟨String.ofList (base.toList.reverse.dropWhile (· = '/')).reverse, token⟩

/-- Kind, namespace and name, with a slash before each. -/
def entityPath (environment : EntityRef) : String :=
  "/" ++ environment.kind ++ "/" ++ environment.space ++ "/" ++ environment.name

def entityUrl (p : Portal) (environment : EntityRef) : String :=
  p.base ++ "/api/catalog/entities/by-name" ++ entityPath environment

def refsUrl (p : Portal) : String := p.base ++ "/api/catalog/entities/by-refs"

def refsBody (refs : List String) : Json :=
  .object [("entityRefs", .array (refs.map .string))]

def unbuildable : CatalogError := .transport "builder error"

def request (p : Portal) (method url body : String) : Except CatalogError Request :=
  match Url.parse? url with
  | none => .error unbuildable
  | some url =>
    match p.token with
    | none => .ok ⟨method, url, none, body⟩
    | some token =>
      if token.toList.all Http.headerAllows then
        .ok ⟨method, url, some (Http.headerValue ("Bearer " ++ token)), body⟩
      else .error unbuildable

def unreadable (url : Url) : CatalogError :=
  .transport ("error decoding response body for url (" ++ url.text ++ ")")

def unreachable (url : Url) : CatalogError :=
  .transport ("error sending request for url (" ++ url.text ++ ")")

def unsuccessful (method url : String) (status : Nat) : CatalogError :=
  .transport (method ++ " " ++ url ++ " returned " ++ Http.statusText status)

/-- Reads the body of an answer that says success. -/
def readBody {α : Type} (decoder : Decoder α) (method url : String) (sent : Request) :
    Reply → Except CatalogError α
  | .unreachable => .error (unreachable sent.url)
  | .answered status body =>
    if Http.isSuccess status then
      match decoder.readText (Http.contentOf status body) with
      | some value => .ok value
      | none => .error (unreadable sent.url)
    else .error (unsuccessful method url status)

def readEntity (p : Portal) (environment : EntityRef) (sent : Request) (reply : Reply) :
    Except CatalogError Entity :=
  match reply with
  | .answered 404 _ => .error (.environmentNotFound environment.text)
  | reply => readBody Entity.decode "GET" (p.entityUrl environment) sent reply

/-- The name the environment goes by, its own before the one it was looked up by. -/
def environmentName (environment : EntityRef) (entity : Entity) : String :=
  (entity.text? "name").getD environment.name

def providersOf (environment : EntityRef) (entity : Entity) (items : List Entity) :
    List Provider :=
  items.filterMap (·.provider? (environmentName environment entity))

variable {m : Type → Type} [Monad m]

def fetchEntity (send : Request → m Reply) (p : Portal) (environment : EntityRef) :
    m (Except CatalogError Entity) := do
  match p.request "GET" (p.entityUrl environment) "" with
  | .error e => return .error e
  | .ok sent => return p.readEntity environment sent (← send sent)

def fetchItems (send : Request → m Reply) (p : Portal) (refs : List String) :
    m (Except CatalogError (List Entity)) := do
  match p.request "POST" p.refsUrl (refsBody refs).compact with
  | .error e => return .error e
  | .ok sent => return readBody Entity.decodeItems "POST" p.refsUrl sent (← send sent)

/-- The providers of an environment, in the order the catalog lists them. -/
def providers (send : Request → m Reply) (p : Portal) (environment : EntityRef) :
    m (Except CatalogError (List Provider)) := do
  match ← p.fetchEntity send environment with
  | .error e => return .error e
  | .ok entity =>
    if entity.providerRefs.isEmpty then return .ok []
    else return (← p.fetchItems send entity.providerRefs).map (providersOf environment entity)

end Portal

end Rollout.Catalog
