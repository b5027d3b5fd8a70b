import Rollout.Deployment.Deploy
import Rollout.Numeral.Whole
import Rollout.Output.Aggregate
import Rollout.Pipeline.Definition
import Rollout.Provider

/-!
The configuration manifest, its defaults, and the rules a valid one keeps.
-/

namespace Rollout

structure ManifestMetadata where
  name : String
  version : Option String
  labels : Option (Dict String)
  deriving DecidableEq, Repr

structure FederationConfig where
  platform : String := "opa"
  strategy : RoleStrategy := .convention
  sessionSuffix : String := "backstage-session"
  mappingTable : Option String := none
  /-- Region of the account the mapping table is in. -/
  platformRegion : Option String := none
  deriving DecidableEq, Repr

structure ParametersConfig where
  stateMachinePath : String := "/baws/pipelineStateMachine/arn"
  deriving DecidableEq, Repr

structure MonitorConfig where
  pollIntervalMs : Nat := 3000
  historyWindow : Nat := 30
  heartbeatEvery : Nat := 15
  deriving DecidableEq, Repr

structure OutputsConfig where
  reserved : String := Output.defaultReserved
  deriving DecidableEq, Repr

structure CatalogConfig where
  baseUrl : Option String := none
  /-- The token itself, or `env:` and the name of the variable that holds it. -/
  token : Option String := none
  environments : Dict (List Provider) := ∅
  deriving DecidableEq, Repr

structure ApiConfig where
  bindAddress : String := "0.0.0.0"
  port : Nat := 7007
  deriving DecidableEq, Repr

structure AwsConfig where
  endpointUrl : Option String := none
  deriving DecidableEq, Repr

structure ManifestSpec where
  federation : FederationConfig := {}
  parameters : ParametersConfig := {}
  monitor : MonitorConfig := {}
  outputs : OutputsConfig := {}
  catalog : CatalogConfig := {}
  pipeline : Option PipelineDefinition := none
  api : ApiConfig := {}
  aws : AwsConfig := {}
  deriving DecidableEq, Repr

structure Manifest where
  apiVersion : String
  kind : String
  metadata : ManifestMetadata
  spec : ManifestSpec
  deriving DecidableEq, Repr

def RoleStrategy.text : RoleStrategy → String
  | .convention => "convention"
  | .groupMapping => "group_mapping"

def RoleStrategy.ofText? (s : String) : Option RoleStrategy :=
  [RoleStrategy.convention, .groupMapping].find? (·.text == s)

/-- A poll interval may be zero; windows and heartbeats of zero count as one. -/
def MonitorConfig.settings (c : MonitorConfig) : MonitorSettings :=
  { pollIntervalMs := c.pollIntervalMs
    historyWindow := max 1 c.historyWindow
    heartbeatEvery := max 1 c.heartbeatEvery }

def CatalogConfig.resolvedToken (c : CatalogConfig) (environment : String → Option String) :
    Option String := do
  let token ← c.token
  match token.toList with
  | 'e' :: 'n' :: 'v' :: ':' :: name => environment (String.ofList name)
  | _ => some token

namespace Manifest

def expectedApiVersion : String := "opa.aws/v1"

def expectedKind : String := "OrchestratorConfig"

def default : Manifest :=
  { apiVersion := expectedApiVersion
    kind := expectedKind
    metadata := ⟨"opa-orchestrator", some "1.0.0", none⟩
    spec := {} }

/-- The first environment that has no provider to deploy to. -/
def emptyEnvironment? (m : Manifest) : Option String :=
  (m.spec.catalog.environments.entries.find? fun entry => entry.2.isEmpty).map (·.1)

/-- The first rule the manifest breaks. -/
def fault? (m : Manifest) : Option String :=
  let spec := m.spec
  if m.apiVersion != expectedApiVersion then
    some ("Invalid apiVersion: '" ++ m.apiVersion ++ "'. Must be '" ++ expectedApiVersion ++ "'")
  else if m.kind != expectedKind then
    some ("Invalid kind: '" ++ m.kind ++ "'. Must be '" ++ expectedKind ++ "'")
  else if m.metadata.name.isEmpty then some "metadata.name cannot be empty"
  else if spec.federation.platform.isEmpty then
    some "spec.federation.role_prefix cannot be empty"
  else if spec.federation.strategy = .groupMapping
      && (spec.federation.mappingTable.getD "").isEmpty then
    some "spec.federation.role_mapping_table is required for the group_mapping strategy"
  else if spec.parameters.stateMachinePath.isEmpty then
    some "spec.parameters.state_machine_path cannot be empty"
  else if spec.monitor.historyWindow = 0 then
    some "spec.monitor.history_window_size must be at least 1"
  else if spec.monitor.heartbeatEvery = 0 then
    some "spec.monitor.heartbeat_every must be at least 1"
  else if spec.outputs.reserved.isEmpty then some "spec.outputs.reserved_prefix cannot be empty"
  else m.emptyEnvironment?.map fun name => "Static environment '" ++ name ++ "' has no providers"

def deploymentSettings (m : Manifest) : DeploymentSettings :=
  { federation := {
      platform := m.spec.federation.platform
      strategy := m.spec.federation.strategy
      sessionSuffix := m.spec.federation.sessionSuffix }
    monitor := m.spec.monitor.settings
    stateMachinePath := m.spec.parameters.stateMachinePath
    reserved := m.spec.outputs.reserved }

/-- The settings to deploy with; groups are mapped only where roles can be looked up. -/
def serviceSettings (m : Manifest) (canLookUp : Bool) : Except String DeploymentSettings :=
  if m.spec.federation.strategy = .groupMapping && !canLookUp then
    .error "group_mapping role strategy requires a role mapping lookup"
  else .ok m.deploymentSettings

theorem rule_kept_iff {broken : Prop} [Decidable broken] {reason : String} {rest : Option String} :
    (if broken then some reason else rest) = none ↔ ¬ broken ∧ rest = none := by
  split <;> simp [*]

/-- A manifest that maps groups and keeps the rules names the table they are mapped by. -/
theorem mappingTable_of_valid {m : Manifest} (valid : m.fault? = none)
    (strategy : m.spec.federation.strategy = .groupMapping) :
    m.spec.federation.mappingTable.isSome = true := by
  simp only [fault?, rule_kept_iff] at valid
  obtain ⟨-, -, -, -, named, -⟩ := valid
  cases table : m.spec.federation.mappingTable with
  | some _ => rfl
  | none => simp [strategy, table] at named

end Manifest

/-! As a document, fields in the order of their declaration. -/

namespace FederationConfig

def toJson (c : FederationConfig) : Json :=
  .object ([
    ("role_prefix", .string c.platform),
    ("strategy", .string c.strategy.text),
    ("session_name_suffix", .string c.sessionSuffix)]
    ++ Json.optional "role_mapping_table" (c.mappingTable.map .string)
    ++ Json.optional "platform_region" (c.platformRegion.map .string))

end FederationConfig

def MonitorConfig.toJson (c : MonitorConfig) : Json :=
  .object [
    ("poll_interval_ms", .nat c.pollIntervalMs),
    ("history_window_size", .nat c.historyWindow),
    ("heartbeat_every", .nat c.heartbeatEvery)]

def MonitorConfig.decode : Decoder MonitorConfig := fun depth doc => do
  let [interval, window, heartbeat] ← Decoder.record
    [["poll_interval_ms"], ["history_window_size"], ["heartbeat_every"]] depth doc | none
  let usual : MonitorConfig := {}
  let interval ← interval.withDefault (.int 0 (Numeral.greatest 64)) usual.pollIntervalMs
  let window ← window.withDefault (.int 0 (Numeral.greatest 32)) usual.historyWindow
  let heartbeat ← heartbeat.withDefault (.int 0 (Numeral.greatest 32)) usual.heartbeatEvery
  some ⟨interval.toNat, window.toNat, heartbeat.toNat⟩

instance : Codec MonitorConfig := ⟨MonitorConfig.decode, MonitorConfig.toJson⟩

def providersJson (providers : List Provider) : Json := .array (providers.map Provider.toJson)

/-- The entries of the maps in a manifest, in the orders they are written in. -/
structure Listing where
  labels : List (String × String)
  environments : List (String × List Provider)
  deriving DecidableEq, Repr

/-- Maps are listed by their keys. -/
def Manifest.listing (m : Manifest) : Listing :=
  { labels := (m.metadata.labels.map Dict.entries).getD []
    environments := m.spec.catalog.environments.entries }

def CatalogConfig.toJson (c : CatalogConfig) (listing : Listing) : Json :=
  .object (Json.optional "base_url" (c.baseUrl.map .string)
    ++ Json.optional "token" (c.token.map .string)
    ++ (if c.environments.isEmpty then []
      else [("environments",
        .object (listing.environments.map fun entry => (entry.1, providersJson entry.2)))]))

def ManifestSpec.toJson (s : ManifestSpec) (listing : Listing) : Json :=
  .object ([
    ("federation", s.federation.toJson),
    ("parameters", .object [("state_machine_path", .string s.parameters.stateMachinePath)]),
    ("monitor", s.monitor.toJson),
    ("outputs", .object [("reserved_prefix", .string s.outputs.reserved)]),
    ("catalog", s.catalog.toJson listing)]
    ++ Json.optional "pipeline" (s.pipeline.map PipelineDefinition.toJson)
    ++ [
    ("api", .object [("bind_address", .string s.api.bindAddress), ("port", .nat s.api.port)]),
    ("aws", .object (Json.optional "endpoint_url" (s.aws.endpointUrl.map .string)))])

def ManifestMetadata.toJson (m : ManifestMetadata) (listing : Listing) : Json :=
  .object ([("name", .string m.name)]
    ++ Json.optional "version" (m.version.map .string)
    ++ Json.optional "labels" (m.labels.map fun _ =>
      .object (listing.labels.map fun entry => (entry.1, .string entry.2))))

def Manifest.toJsonAs (m : Manifest) (listing : Listing) : Json :=
  .object [
    ("apiVersion", .string m.apiVersion),
    ("kind", .string m.kind),
    ("metadata", m.metadata.toJson listing),
    ("spec", m.spec.toJson listing)]

def Manifest.toJson (m : Manifest) : Json := m.toJsonAs m.listing

end Rollout
