import Rollout.Catalog.Portal
import Rollout.Cli.Configuration
import Rollout.Cloud.Answer
import Rollout.Local.Setup

/-!
The deployment service a configuration asks for. The catalog is the portal if
one is configured and the configured environments otherwise; all else is either
in the cloud or in memory.
-/

namespace Rollout.Cli

/-- Where pipelines run. -/
inductive EngineMode where
  | cloud
  | inProcess (runner : Local.Runner)

structure Service where
  manifest : Manifest
  mode : EngineMode
  settings : DeploymentSettings

/-- More polls than an execution is given time for. -/
def pollAllowance : Nat := 1000000

def readOutputs (path text : String) : Except CommandError Local.Runner :=
  match (Decoder.dict (.dict .json)).readText text with
  | some outputs => .ok { outputs }
  | none => .error ⟨"Invalid local outputs file " ++ Text.quotedPath path, ["not such a document"]⟩

/-- The roles of groups are looked up only by the strategy that maps them. -/
def mappingTable (manifest : Manifest) : Option String :=
  match manifest.spec.federation.strategy with
  | .groupMapping => manifest.spec.federation.mappingTable
  | .convention => none

/-- What is kept in memory has a table of roles; the cloud has the one that is configured. -/
def EngineMode.canLookUp (manifest : Manifest) : EngineMode → Bool
  | .cloud => (mappingTable manifest).isSome
  | .inProcess _ => true

namespace Service

def wire (manifest : Manifest) (mode : EngineMode) : Except CommandError Service :=
  match manifest.serviceSettings (mode.canLookUp manifest) with
  | .ok settings => .ok ⟨manifest, mode, settings⟩
  | .error reason => .error ⟨"Failed to build deployment service", [reason]⟩

/-- A manifest that keeps the rules always has a service. -/
theorem wire_of_valid {manifest : Manifest} (valid : manifest.fault? = none) (mode : EngineMode) :
    wire manifest mode = .ok ⟨manifest, mode, manifest.deploymentSettings⟩ := by
  have found : (manifest.spec.federation.strategy = .groupMapping && !mode.canLookUp manifest) =
      false := by
    cases strategy : manifest.spec.federation.strategy with
    | convention => rfl
    | groupMapping =>
        have table := Manifest.mappingTable_of_valid valid strategy
        cases mode <;> simp [EngineMode.canLookUp, mappingTable, strategy, table]
  simp [wire, Manifest.serviceSettings, found]

variable {m : Type → Type} [Monad m]

def loadRunner (host : Host m) : Option String → m (Except CommandError Local.Runner)
  | none => return .ok {}
  | some path => do
    match ← host.readFile path with
    | .ok text => return readOutputs path text
    | .error reason =>
      return .error ⟨"Failed to read local outputs from " ++ Text.quotedPath path, [reason]⟩

def build (host : Host m) (manifest : Manifest) (isLocal : Bool) (outputs : Option String) :
    m (Except CommandError Service) := do
  if isLocal then
    return (← loadRunner host outputs).bind fun runner => wire manifest (.inProcess runner)
  else return wire manifest .cloud

/-- The providers of an environment by the configured catalog. -/
def catalog (host : Host m) (manifest : Manifest) (environment : EntityRef) :
    m (Except CatalogError (List Provider)) :=
  let settings := manifest.spec.catalog
  match settings.baseUrl with
  | some base =>
    (Catalog.Portal.ofBase base (settings.resolvedToken host.environment)).providers host.http
      environment
  | none => return (Local.Environments.mk settings.environments).find environment

/-- Calls answered in memory, but for the catalog and for what is shown. -/
def localAnswer (host : Host m) (manifest : Manifest) :
    (call : Call) → StateT Local.World m call.Answer
  | .providers environment => liftM (catalog host manifest environment)
  | .showEvent status event => liftM (host.report (Monitor.eventLine status event))
  | .showHeartbeat status lastId lastType dots =>
    liftM (host.report (Monitor.heartbeatLine status lastId lastType dots))
  | call => fun world => return world.answer call

def run {α : Type} (host : Host m) (s : Service) (program : Program α) : m (Option α) := do
  match s.mode with
  | .cloud =>
    return (← (program.run (Cloud.answer host (mappingTable s.manifest)
      (catalog host s.manifest))).run {}).1
  | .inProcess runner =>
    let world := Local.World.ofManifest s.manifest runner (← host.now) (← host.seed)
    return (← (program.run (localAnswer host s.manifest)).run world).1

def deploy (host : Host m) (s : Service) (request : DeploymentRequest) :
    m (Option (Except DeploymentError DeploymentResult)) :=
  s.run host (Deployment.deploy s.settings pollAllowance request)

end Service

end Rollout.Cli
