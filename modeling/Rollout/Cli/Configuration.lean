import Rollout.Cli.CommandError
import Rollout.Cli.Template
import Rollout.Config.Discovery

/-!
The commands on the configuration: showing, checking and generating a manifest.
-/

namespace Rollout.Cli

def loadFailed : String := "Failed to load configuration"

def validationFailed : String := "Configuration validation failed"

def strategyText (f : FederationConfig) : String :=
  match f.strategy with
  | .convention => "naming convention"
  | .groupMapping => "group mapping (" ++ f.mappingTable.getD "(no table)" ++ ")"

def providerLine (p : Provider) : String :=
  "    - " ++ p.providerName ++ " → " ++ p.accountId ++ " / " ++ p.region

def catalogLines (c : CatalogConfig) : List String :=
  match c.baseUrl with
  | some url => ["  Portal: " ++ url]
  | none =>
    ("  Static environments: " ++ toString c.environments.entries.length)
      :: c.environments.entries.flatMap fun (name, providers) =>
        ("  " ++ name) :: providers.map providerLine

def manifestLines (m : Manifest) : List String :=
  let spec := m.spec
  ["Current configuration:", "",
    "Credential Federation:",
    "  Role prefix: " ++ spec.federation.platform,
    "  Strategy: " ++ strategyText spec.federation,
    "  Session suffix: " ++ spec.federation.sessionSuffix, "",
    "Execution Monitor:",
    "  Poll interval: " ++ toString spec.monitor.pollIntervalMs ++ " ms",
    "  History window: " ++ toString spec.monitor.historyWindow ++ " events",
    "  Heartbeat every: " ++ toString spec.monitor.heartbeatEvery ++ " polls", "",
    "Catalog:"]
    ++ catalogLines spec.catalog
    ++ ["",
    "Parameters:",
    "  State machine: " ++ spec.parameters.stateMachinePath,
    "  Output prefix: " ++ spec.outputs.reserved, "",
    "API:",
    "  Listen: " ++ spec.api.bindAddress ++ ":" ++ toString spec.api.port]
    ++ (spec.aws.endpointUrl.map ("  AWS endpoint: " ++ ·)).toList ++ [""]

def pathLines (explicit fromVariable : Option String) : List String :=
  let shown := fun path : Option String => path.getD "(not set)"
  ["Configuration discovery paths:",
    "  1. --config flag: " ++ shown explicit,
    "  2. OPA_CONFIG_PATH: " ++ shown fromVariable,
    "  3. ./opa-config.yaml",
    "  4. ~/.opa/config.yaml",
    "  5. /etc/opa/config.yaml", ""]

def unconfigured : String :=
  "spec.pipeline is not configured; run \x60opa config generate --examples\x60 for a sample"

/-- The definition of the configured pipeline. -/
def definitionOf (m : Manifest) : Except CommandError String :=
  match m.spec.pipeline with
  | some definition => .ok definition.render.pretty
  | none => .error { message := unconfigured }

variable {m : Type → Type} [Monad m]

def printLines (host : Host m) (lines : List String) : m Unit :=
  host.print (String.join (lines.map (· ++ "\n")))

def loadManifest (host : Host m) (config : Option String) : m (Except CommandError Manifest) :=
  return (← Config.load host config).mapError fun e => ⟨loadFailed, [e.message]⟩

def checked (manifest : Manifest) : Except CommandError Manifest :=
  match manifest.fault? with
  | none => .ok manifest
  | some fault => .error ⟨validationFailed, [fault]⟩

def loadChecked (host : Host m) (config : Option String) : m (Except CommandError Manifest) :=
  return (← loadManifest host config) >>= checked

def showConfig (host : Host m) (config : Option String) (paths yaml : Bool) :
    m (Except CommandError Unit) := do
  match ← loadManifest host config with
  | .error e => return .error e
  | .ok manifest =>
    if paths then printLines host (pathLines config (host.environment Config.pathVariable))
    if yaml then host.print manifest.toYaml else printLines host (manifestLines manifest)
    return .ok ()

def validateConfig (host : Host m) (config : Option String) : m (Except CommandError Unit) := do
  host.printLine "Validating configuration..."
  match ← loadChecked host config with
  | .error e => return .error e
  | .ok _ =>
    host.printLine "✓ Configuration is valid"
    return .ok ()

/-- Writes a text and says so. -/
def writeText (host : Host m) (what done : String) (path text : String) :
    m (Except CommandError Unit) := do
  match ← host.writeFile path text with
  | .error reason =>
    return .error ⟨"Failed to write " ++ what ++ " to " ++ Text.quotedPath path, [reason]⟩
  | .ok () =>
    host.printLine ("✓ " ++ done ++ ": " ++ path)
    return .ok ()

def generateConfig (host : Host m) (output : String) (examples : Bool) :
    m (Except CommandError Unit) :=
  writeText host "config" "Configuration generated" output (Template.sample examples)

def renderPipeline (host : Host m) (config output : Option String) :
    m (Except CommandError Unit) := do
  match (← loadManifest host config) >>= definitionOf with
  | .error e => return .error e
  | .ok text =>
    match output with
    | some path => writeText host "definition" "State machine definition written" path text
    | none =>
      host.printLine text
      return .ok ()

end Rollout.Cli
