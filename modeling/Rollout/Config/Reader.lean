import Rollout.Config.Manifest
import Rollout.Yaml.Decode
import Rollout.Yaml.Printer
import Rollout.Yaml.Reader

/-!
The manifest as YAML.
-/

namespace Rollout

open Yaml (Node Field)

namespace Config

def decodeProvider : Yaml.Decoder Provider := fun node => do
  let [account, region, vpc, cluster, environment, provider] ← Yaml.Decoder.record
    ["accountId", "region", "vpcParameterPath", "clusterParameterPath", "environmentName",
      "providerName"] node | none
  some {
    accountId := ← account.required .text
    region := ← region.required .text
    vpcPath := ← vpc.required .text
    clusterPath := ← cluster.required .text
    environmentName := ← environment.required .text
    providerName := ← provider.required .text }

def decodePipeline : Yaml.Decoder PipelineDefinition := fun node => do
  let [serialize, aggregate, package, deploy, bucket] ← Yaml.Decoder.record
    ["serialize_function_arn", "aggregate_function_arn", "package_project", "deploy_project",
      "artifact_bucket"] node | none
  some {
    serializeFunction := ← serialize.required .text
    aggregateFunction := ← aggregate.required .text
    packageProject := ← package.required .text
    deployProject := ← deploy.required .text
    artifactBucket := ← bucket.required .text }

def decodeMetadata : Yaml.Decoder ManifestMetadata := fun node => do
  let [name, version, labels] ← Yaml.Decoder.record ["name", "version", "labels"] node | none
  some {
    name := ← name.required .text
    version := ← version.nullable .text
    labels := ← labels.nullable (.dict .text) }

def decodeStrategy : Yaml.Decoder RoleStrategy := fun node =>
  (Yaml.Decoder.text node).bind RoleStrategy.ofText?

def decodeFederation : Yaml.Decoder FederationConfig := fun node => do
  let [platform, strategy, suffix, table, region] ← Yaml.Decoder.record
    ["role_prefix", "strategy", "session_name_suffix", "role_mapping_table", "platform_region"]
    node | none
  let usual : FederationConfig := {}
  some {
    platform := ← platform.withDefault .text usual.platform
    strategy := ← strategy.withDefault decodeStrategy usual.strategy
    sessionSuffix := ← suffix.withDefault .text usual.sessionSuffix
    mappingTable := ← table.nullable .text
    platformRegion := ← region.nullable .text }

def decodeParameters : Yaml.Decoder ParametersConfig := fun node => do
  let [path] ← Yaml.Decoder.record ["state_machine_path"] node | none
  some { stateMachinePath := ← path.withDefault .text ({} : ParametersConfig).stateMachinePath }

def decodeMonitor : Yaml.Decoder MonitorConfig := fun node => do
  let [interval, window, heartbeat] ← Yaml.Decoder.record
    ["poll_interval_ms", "history_window_size", "heartbeat_every"] node | none
  let usual : MonitorConfig := {}
  some {
    pollIntervalMs := ← interval.withDefault (.natural 64) usual.pollIntervalMs
    historyWindow := ← window.withDefault (.natural 32) usual.historyWindow
    heartbeatEvery := ← heartbeat.withDefault (.natural 32) usual.heartbeatEvery }

def decodeOutputs : Yaml.Decoder OutputsConfig := fun node => do
  let [reserved] ← Yaml.Decoder.record ["reserved_prefix"] node | none
  some { reserved := ← reserved.withDefault .text ({} : OutputsConfig).reserved }

def decodeCatalog : Yaml.Decoder CatalogConfig := fun node => do
  let [baseUrl, token, environments] ← Yaml.Decoder.record
    ["base_url", "token", "environments"] node | none
  some {
    baseUrl := ← baseUrl.nullable .text
    token := ← token.nullable .text
    environments := ← environments.withDefault (.dict (.list decodeProvider)) ∅ }

def decodeApi : Yaml.Decoder ApiConfig := fun node => do
  let [address, port] ← Yaml.Decoder.record ["bind_address", "port"] node | none
  let usual : ApiConfig := {}
  some {
    bindAddress := ← address.withDefault .text usual.bindAddress
    port := ← port.withDefault (.natural 16) usual.port }

def decodeAws : Yaml.Decoder AwsConfig := fun node => do
  let [endpoint] ← Yaml.Decoder.record ["endpoint_url"] node | none
  some { endpointUrl := ← endpoint.nullable .text }

def decodeSpec : Yaml.Decoder ManifestSpec := fun node => do
  let [federation, parameters, monitor, outputs, catalog, pipeline, api, aws] ←
    Yaml.Decoder.record
      ["federation", "parameters", "monitor", "outputs", "catalog", "pipeline", "api", "aws"]
      node | none
  some {
    federation := ← federation.withDefault decodeFederation {}
    parameters := ← parameters.withDefault decodeParameters {}
    monitor := ← monitor.withDefault decodeMonitor {}
    outputs := ← outputs.withDefault decodeOutputs {}
    catalog := ← catalog.withDefault decodeCatalog {}
    pipeline := ← pipeline.nullable decodePipeline
    api := ← api.withDefault decodeApi {}
    aws := ← aws.withDefault decodeAws {} }

end Config

namespace Manifest

def ofNode? : Yaml.Decoder Manifest := fun node => do
  let [apiVersion, kind, metadata, spec] ← Yaml.Decoder.record
    ["apiVersion", "kind", "metadata", "spec"] node | none
  some {
    apiVersion := ← apiVersion.required .text
    kind := ← kind.required .text
    metadata := ← metadata.required Config.decodeMetadata
    spec := ← spec.required Config.decodeSpec }

def ofYaml? (text : String) : Option Manifest := (Node.parse text).bind ofNode?

/-- The document of a manifest whose maps are written in the orders of a listing. -/
def toYamlAs (m : Manifest) (listing : Listing) : String := Yaml.print (m.toJsonAs listing)

def toYaml (m : Manifest) : String := m.toYamlAs m.listing

end Manifest

end Rollout
