import Rollout.Config.Reader
import Rollout.Proofs.NodeForms
import Rollout.Proofs.PrintedDocument

/-!
A manifest that was saved and is read again. Section by section, what is left
out of the document is what a reader takes for a missing field.
-/

namespace Rollout

open Yaml (Node)
open Yaml.Decoder (Returns returns_text returns_list returns_dict returns_natural returns_written
  named_object)

/-- The numbers fit the widths they are kept in. -/
structure MonitorConfig.Sized (c : MonitorConfig) : Prop where
  interval : c.pollIntervalMs ≤ Numeral.greatest 64
  window : c.historyWindow ≤ Numeral.greatest 32
  heartbeat : c.heartbeatEvery ≤ Numeral.greatest 32

structure Manifest.Sized (m : Manifest) : Prop where
  monitor : m.spec.monitor.Sized
  port : m.spec.api.port ≤ Numeral.greatest 16

namespace Config

theorem provider_returns (provider : Provider) :
    Returns decodeProvider provider.toJson provider := by
  have form : provider.toJson = .object (Json.written [
      ("accountId", some (.string provider.accountId)),
      ("region", some (.string provider.region)),
      ("vpcParameterPath", some (.string provider.vpcPath)),
      ("clusterParameterPath", some (.string provider.clusterPath)),
      ("environmentName", some (.string provider.environmentName)),
      ("providerName", some (.string provider.providerName))]) := rfl
  rw [form]
  exact returns_written (fun _ => rfl) (by decide) rfl (by simp)

theorem pipeline_returns (definition : PipelineDefinition) :
    Returns decodePipeline definition.toJson definition := by
  have form : definition.toJson = .object (Json.written [
      ("serialize_function_arn", some (.string definition.serializeFunction)),
      ("aggregate_function_arn", some (.string definition.aggregateFunction)),
      ("package_project", some (.string definition.packageProject)),
      ("deploy_project", some (.string definition.deployProject)),
      ("artifact_bucket", some (.string definition.artifactBucket))]) := rfl
  rw [form]
  exact returns_written (fun _ => rfl) (by decide) rfl (by simp)

theorem metadata_returns {metadata : ManifestMetadata} {listing : Listing}
    (order : ∀ labels, metadata.labels = some labels → listing.labels.Perm labels.entries) :
    Returns decodeMetadata (metadata.toJson listing) metadata := by
  have form : metadata.toJson listing = .object (Json.written [
      ("name", some (.string metadata.name)),
      ("version", metadata.version.map .string),
      ("labels", metadata.labels.map fun _ =>
        .object (listing.labels.map fun entry => (entry.1, .string entry.2)))]) := by
    simp [ManifestMetadata.toJson, Json.written, Json.optional]
  rw [form]
  have labels : (Yaml.Field.ofField (metadata.labels.map fun _ =>
      .object (listing.labels.map fun entry => (entry.1, .string entry.2)))).nullable
        (.dict .text) = some metadata.labels :=
    Yaml.Field.nullable_ofField
      (fun labels known => returns_dict (order labels known) fun field _ => returns_text field.2)
      fun labels => named_object _
  exact returns_written (fun _ => rfl) (by decide) rfl (by simp [labels])

theorem strategy_returns (strategy : RoleStrategy) :
    Returns decodeStrategy (.string strategy.text) strategy := by
  have known : RoleStrategy.ofText? strategy.text = some strategy := by cases strategy <;> decide
  have read : Yaml.Decoder.text (Node.ofJson (.string strategy.text)) = some strategy.text :=
    returns_text strategy.text
  rw [Returns, decodeStrategy, read, Option.bind_some, known]

theorem federation_returns (federation : FederationConfig) :
    Returns decodeFederation federation.toJson federation := by
  have form : federation.toJson = .object (Json.written [
      ("role_prefix", some (.string federation.platform)),
      ("strategy", some (.string federation.strategy.text)),
      ("session_name_suffix", some (.string federation.sessionSuffix)),
      ("role_mapping_table", federation.mappingTable.map .string),
      ("platform_region", federation.platformRegion.map .string)]) := by
    simp [FederationConfig.toJson, Json.written, Json.optional]
  rw [form]
  have strategy := Yaml.Field.withDefault_ofField (strategy_returns federation.strategy)
  exact returns_written (fun _ => rfl) (by decide) rfl (by simp [strategy])

theorem parameters_returns (parameters : ParametersConfig) :
    Returns decodeParameters
      (.object [("state_machine_path", .string parameters.stateMachinePath)]) parameters := by
  have form : [("state_machine_path", Json.string parameters.stateMachinePath)] =
      Json.written [("state_machine_path", some (.string parameters.stateMachinePath))] := rfl
  rw [form]
  exact returns_written (fun _ => rfl) (by decide) rfl (by simp)

theorem monitor_returns {monitor : MonitorConfig} (sized : monitor.Sized) :
    Returns decodeMonitor monitor.toJson monitor := by
  have form : monitor.toJson = .object (Json.written [
      ("poll_interval_ms", some (.nat monitor.pollIntervalMs)),
      ("history_window_size", some (.nat monitor.historyWindow)),
      ("heartbeat_every", some (.nat monitor.heartbeatEvery))]) := rfl
  rw [form]
  have interval := Yaml.Field.withDefault_ofField (returns_natural sized.interval)
  have window := Yaml.Field.withDefault_ofField (returns_natural sized.window)
  have heartbeat := Yaml.Field.withDefault_ofField (returns_natural sized.heartbeat)
  exact returns_written (fun _ => rfl) (by decide) rfl (by simp [interval, window, heartbeat])

theorem outputs_returns (outputs : OutputsConfig) :
    Returns decodeOutputs (.object [("reserved_prefix", .string outputs.reserved)]) outputs := by
  have form : [("reserved_prefix", Json.string outputs.reserved)] =
      Json.written [("reserved_prefix", some (.string outputs.reserved))] := rfl
  rw [form]
  exact returns_written (fun _ => rfl) (by decide) rfl (by simp)

theorem environments_returns {environments : Dict (List Provider)}
    {entries : List (String × List Provider)} (order : entries.Perm environments.entries) :
    Returns (.dict (.list decodeProvider))
      (.object (entries.map fun entry => (entry.1, providersJson entry.2))) environments :=
  returns_dict order fun _ _ => returns_list fun provider _ => provider_returns provider

theorem empty_of_isEmpty {environments : Dict (List Provider)}
    (nothing : environments.isEmpty = true) : environments = ∅ := by
  obtain ⟨entries, ascending⟩ := environments
  have same : entries = [] := List.isEmpty_iff.mp nothing
  subst same
  rfl

/-- Environments are left out when there are none, which is what a reader takes a missing field
for. -/
theorem catalog_returns {catalog : CatalogConfig} {listing : Listing}
    (order : listing.environments.Perm catalog.environments.entries) :
    Returns decodeCatalog (catalog.toJson listing) catalog := by
  by_cases nothing : catalog.environments.isEmpty = true
  · have form : catalog.toJson listing = .object (Json.written [
        ("base_url", catalog.baseUrl.map .string),
        ("token", catalog.token.map .string),
        ("environments", none)]) := by
      simp [CatalogConfig.toJson, Json.written, Json.optional, nothing]
    rw [form]
    have usual : (Yaml.Field.ofField none).withDefault (.dict (.list decodeProvider)) ∅ =
        some catalog.environments := by
      rw [empty_of_isEmpty nothing]
      rfl
    exact returns_written (fun _ => rfl) (by decide) rfl (by simp [usual])
  · have form : catalog.toJson listing = .object (Json.written [
        ("base_url", catalog.baseUrl.map .string),
        ("token", catalog.token.map .string),
        ("environments", some (.object
          (listing.environments.map fun entry => (entry.1, providersJson entry.2))))]) := by
      simp [CatalogConfig.toJson, Json.written, Json.optional, nothing]
    rw [form]
    have environments := Yaml.Field.withDefault_ofField (environments_returns order) ∅
    exact returns_written (fun _ => rfl) (by decide) rfl (by simp [environments])

theorem api_returns {api : ApiConfig} (sized : api.port ≤ Numeral.greatest 16) :
    Returns decodeApi
      (.object [("bind_address", .string api.bindAddress), ("port", .nat api.port)]) api := by
  have form : [("bind_address", Json.string api.bindAddress), ("port", .nat api.port)] =
      Json.written [("bind_address", some (.string api.bindAddress)),
        ("port", some (.nat api.port))] := rfl
  rw [form]
  have port := Yaml.Field.withDefault_ofField (returns_natural sized)
  exact returns_written (fun _ => rfl) (by decide) rfl (by simp [port])

theorem aws_returns (aws : AwsConfig) :
    Returns decodeAws (.object (Json.optional "endpoint_url" (aws.endpointUrl.map .string)))
      aws := by
  have form : Json.optional "endpoint_url" (aws.endpointUrl.map .string) =
      Json.written [("endpoint_url", aws.endpointUrl.map .string)] := by
    simp [Json.written]
  rw [form]
  exact returns_written (fun _ => rfl) (by decide) rfl (by simp)

theorem spec_returns {spec : ManifestSpec} {listing : Listing} (monitor : spec.monitor.Sized)
    (port : spec.api.port ≤ Numeral.greatest 16)
    (order : listing.environments.Perm spec.catalog.environments.entries) :
    Returns decodeSpec (spec.toJson listing) spec := by
  have form : spec.toJson listing = .object (Json.written [
      ("federation", some spec.federation.toJson),
      ("parameters", some (.object [("state_machine_path",
        .string spec.parameters.stateMachinePath)])),
      ("monitor", some spec.monitor.toJson),
      ("outputs", some (.object [("reserved_prefix", .string spec.outputs.reserved)])),
      ("catalog", some (spec.catalog.toJson listing)),
      ("pipeline", spec.pipeline.map PipelineDefinition.toJson),
      ("api", some (.object [("bind_address", .string spec.api.bindAddress),
        ("port", .nat spec.api.port)])),
      ("aws", some (.object (Json.optional "endpoint_url"
        (spec.aws.endpointUrl.map .string))))]) := by
    simp [ManifestSpec.toJson, Json.written, Json.optional]
  rw [form]
  have federation := Yaml.Field.withDefault_ofField (federation_returns spec.federation) {}
  have parameters := Yaml.Field.withDefault_ofField (parameters_returns spec.parameters) {}
  have monitor := Yaml.Field.withDefault_ofField (monitor_returns monitor) {}
  have outputs := Yaml.Field.withDefault_ofField (outputs_returns spec.outputs) {}
  have catalog := Yaml.Field.withDefault_ofField (catalog_returns order) {}
  have pipeline : (Yaml.Field.ofField (spec.pipeline.map PipelineDefinition.toJson)).nullable
      decodePipeline = some spec.pipeline :=
    Yaml.Field.nullable_ofField (fun definition _ => pipeline_returns definition)
      fun definition => named_object _
  have api := Yaml.Field.withDefault_ofField (api_returns port) {}
  have aws := Yaml.Field.withDefault_ofField (aws_returns spec.aws) {}
  exact returns_written (fun _ => rfl) (by decide) rfl (by
    simp [federation, parameters, monitor, outputs, catalog, pipeline, api, aws])

/-- An optional field is written by a writer of whole numbers, or not at all. -/
theorem optional_whole {α : Type} {write : α → Json} (each : ∀ value, (write value).Whole)
    (name : String) (value : Option α) :
    ∀ field ∈ Json.optional name (value.map write), field.2.Whole := by
  cases value with
  | none => simp [Json.optional]
  | some value => simpa [Json.optional] using each value

theorem entries_whole {α : Type} {write : α → Json} (each : ∀ value, (write value).Whole)
    (entries : List (String × α)) :
    (Json.object (entries.map fun entry => (entry.1, write entry.2))).Whole := by
  rw [Json.whole_object_iff]
  intro field member
  obtain ⟨entry, _, rfl⟩ := List.mem_map.mp member
  exact each entry.2

theorem metadata_whole (metadata : ManifestMetadata) (listing : Listing) :
    (metadata.toJson listing).Whole := by
  have version := optional_whole Json.whole_string "version" metadata.version
  have labels := optional_whole (fun _ => entries_whole Json.whole_string listing.labels) "labels"
    metadata.labels
  simp only [ManifestMetadata.toJson, Json.whole_object_iff, List.forall_mem_append]
  exact ⟨⟨by simp, version⟩, labels⟩

theorem federation_whole (federation : FederationConfig) : federation.toJson.Whole := by
  have table := optional_whole Json.whole_string "role_mapping_table" federation.mappingTable
  have region := optional_whole Json.whole_string "platform_region" federation.platformRegion
  simp only [FederationConfig.toJson, Json.whole_object_iff, List.forall_mem_append]
  exact ⟨⟨by simp, table⟩, region⟩

theorem providers_whole (providers : List Provider) : (providersJson providers).Whole := by
  rw [providersJson, Json.whole_array_iff]
  intro item member
  obtain ⟨provider, _, rfl⟩ := List.mem_map.mp member
  simp [Provider.toJson]

theorem catalog_whole (catalog : CatalogConfig) (listing : Listing) :
    (catalog.toJson listing).Whole := by
  have url := optional_whole Json.whole_string "base_url" catalog.baseUrl
  have token := optional_whole Json.whole_string "token" catalog.token
  have environments := entries_whole providers_whole listing.environments
  simp only [CatalogConfig.toJson, Json.whole_object_iff, List.forall_mem_append]
  refine ⟨⟨url, token⟩, ?_⟩
  split
  · simp
  · simpa using environments

theorem spec_whole (spec : ManifestSpec) (listing : Listing) : (spec.toJson listing).Whole := by
  have definition_whole (definition : PipelineDefinition) : definition.toJson.Whole := by
    simp [PipelineDefinition.toJson, PipelineDefinition.str]
  have pipeline := optional_whole definition_whole "pipeline" spec.pipeline
  have endpoint := optional_whole Json.whole_string "endpoint_url" spec.aws.endpointUrl
  have monitor : spec.monitor.toJson.Whole := by simp [MonitorConfig.toJson]
  simp only [ManifestSpec.toJson, Json.whole_object_iff, List.forall_mem_append]
  refine ⟨⟨?_, pipeline⟩, ?_⟩
  · simp [federation_whole, catalog_whole, monitor]
  · simpa using endpoint

end Config

namespace Manifest

/-- A listing goes through every map of the manifest, in whatever order. -/
structure Lists (m : Manifest) (listing : Listing) : Prop where
  labels : ∀ labels, m.metadata.labels = some labels → listing.labels.Perm labels.entries
  environments : listing.environments.Perm m.spec.catalog.environments.entries

theorem lists_listing (m : Manifest) : m.Lists m.listing := by
  constructor
  case labels =>
      intro labels known
      rw [listing, known]
      exact .refl labels.entries
  case environments => exact .refl _

/-- The tree of a written manifest is read as the manifest. -/
theorem returns {m : Manifest} {listing : Listing} (sized : m.Sized) (lists : m.Lists listing) :
    Returns ofNode? (m.toJsonAs listing) m := by
  have form : m.toJsonAs listing = .object (Json.written [
      ("apiVersion", some (.string m.apiVersion)),
      ("kind", some (.string m.kind)),
      ("metadata", some (m.metadata.toJson listing)),
      ("spec", some (m.spec.toJson listing))]) := rfl
  rw [form]
  have metadata := Yaml.Field.required_ofField (Config.metadata_returns lists.labels)
  have spec := Yaml.Field.required_ofField
    (Config.spec_returns sized.monitor sized.port lists.environments)
  exact returns_written (fun _ => rfl) (by decide) rfl (by simp [metadata, spec])

theorem whole (m : Manifest) (listing : Listing) : (m.toJsonAs listing).Whole := by
  simp [toJsonAs, Config.metadata_whole, Config.spec_whole]

/-- A document that a manifest may be saved as: its maps are written in some order. -/
def SavedAs (m : Manifest) (text : String) : Prop :=
  ∃ listing, m.Lists listing ∧ text = m.toYamlAs listing

/-- A manifest that was saved is reloaded as it was, so it keeps or breaks the same rules. -/
theorem reloaded_unchanged {m : Manifest} (sized : m.Sized) :
    m.SavedAs m.toYaml ∧ ∀ text, m.SavedAs text →
      ofYaml? text = some m ∧ (ofYaml? text).map fault? = some m.fault? := by
  constructor
  · exact ⟨m.listing, m.lists_listing, rfl⟩
  · rintro text ⟨listing, lists, rfl⟩
    have parsed : Node.parse (m.toYamlAs listing) = some (Node.ofJson (m.toJsonAs listing)) :=
      Yaml.parse_print (m.whole listing)
    have reloaded : ofYaml? (m.toYamlAs listing) = some m := by
      rw [ofYaml?, parsed, Option.bind_some]
      exact returns sized lists
    exact ⟨reloaded, by rw [reloaded, Option.map_some]⟩

/-- Texts that look like other values, a text of several lines, and an environment without
providers, which no valid manifest has. -/
def savedSample : Manifest :=
  { Manifest.default with
    metadata := {
      name := "dev"
      version := some "1.0"
      labels := some (Dict.ofList [("null", "~"), ("notes: a", " first\n\nlast\n\n")]) }
    spec := {
      federation := { strategy := .groupMapping, mappingTable := some "" }
      monitor := { pollIntervalMs := 0, historyWindow := 4294967295 }
      catalog := { token := some "env:TOKEN", environments := Dict.ofList [("dev", [])] } } }

/-- The sample with its labels written backwards. -/
def savedBackwards : Listing :=
  { savedSample.listing with labels := savedSample.listing.labels.reverse }

theorem sample_reloaded_unchanged : savedSample.Sized ∧
    (ofYaml? savedSample.toYaml).map fault? = some savedSample.fault? ∧
    ofYaml? (savedSample.toYamlAs savedBackwards) = some savedSample := by
  have monitor : savedSample.spec.monitor.Sized := ⟨by decide, by decide, by decide⟩
  have sized : savedSample.Sized := ⟨monitor, by decide⟩
  have lists : savedSample.Lists savedBackwards := by
    constructor
    case labels =>
        intro labels known
        exact (List.reverse_perm _).trans (savedSample.lists_listing.labels labels known)
    case environments => exact savedSample.lists_listing.environments
  obtain ⟨saved, reloads⟩ := reloaded_unchanged sized
  exact ⟨sized, (reloads _ saved).2, (reloads _ ⟨savedBackwards, lists, rfl⟩).1⟩

end Manifest

end Rollout
