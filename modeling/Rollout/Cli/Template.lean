/-!
Sample manifests: the shortest useful one, and one that shows every section.
-/

namespace Rollout.Cli.Template

def minimalLines : List String := [
  "apiVersion: opa.aws/v1",
  "kind: OrchestratorConfig",
  "metadata:",
  "  name: opa-orchestrator",
  "spec:",
  "  federation:",
  "    role_prefix: opa",
  "  catalog:",
  "    base_url: https://portal.example.com",
  "    token: env:OPA_CATALOG_TOKEN"]

def fullLines : List String := [
  "# OPA deployment orchestrator configuration",
  "#",
  "# Discovery order: --config, OPA_CONFIG_PATH, ./opa-config.yaml,",
  "# ~/.opa/config.yaml, /etc/opa/config.yaml",
  "apiVersion: opa.aws/v1",
  "kind: OrchestratorConfig",
  "metadata:",
  "  name: opa-orchestrator",
  "  version: \"1.0.0\"",
  "  labels:",
  "    team: platform",
  "",
  "spec:",
  "  federation:",
  "    # Roles are named \x7brole_prefix\x7d-\x7bprovider\x7d-operations-role",
  "    role_prefix: opa",
  "    # convention | group_mapping",
  "    strategy: convention",
  "    session_name_suffix: backstage-session",
  "    # Required for group_mapping: table keyed by \"\x7baccount\x7d-\x7bgroup\x7d\"",
  "    # role_mapping_table: opa-role-mapping",
  "    # platform_region: us-east-1",
  "",
  "  parameters:",
  "    state_machine_path: /baws/pipelineStateMachine/arn",
  "",
  "  monitor:",
  "    poll_interval_ms: 3000",
  "    history_window_size: 30",
  "    heartbeat_every: 15",
  "",
  "  outputs:",
  "    reserved_prefix: baws",
  "",
  "  catalog:",
  "    # Portal catalog API; when omitted the static environments below are used",
  "    # base_url: https://portal.example.com",
  "    # token: env:OPA_CATALOG_TOKEN",
  "    environments:",
  "      dev:",
  "        - accountId: \"123456789012\"",
  "          region: us-east-1",
  "          vpcParameterPath: /opa/dev/vpc",
  "          clusterParameterPath: /opa/dev/cluster",
  "          environmentName: dev",
  "          providerName: dev-provider",
  "",
  "  # Resources for `opa pipeline render`",
  "  pipeline:",
  "    serialize_function_arn: arn:aws:lambda:us-east-1:123456789012:function:opa-serialize-parameters",
  "    aggregate_function_arn: arn:aws:lambda:us-east-1:123456789012:function:opa-aggregate-outputs",
  "    package_project: opa-package-boilerplate",
  "    deploy_project: opa-deploy-boilerplate",
  "    artifact_bucket: opa-pipeline-artifacts",
  "",
  "  api:",
  "    bind_address: 0.0.0.0",
  "    port: 7007",
  "",
  "  # Local emulator endpoint for every AWS client",
  "  # aws:",
  "  #   endpoint_url: http://localhost:4566"]

def sample (examples : Bool) : String :=
  String.join ((if examples then fullLines else minimalLines).map (· ++ "\n"))

end Rollout.Cli.Template
