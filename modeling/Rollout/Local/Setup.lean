import Rollout.Config.Manifest
import Rollout.Local.World

/-!
A world made from the configuration alone: every configured provider gets
placeholder network parameters, the local state machine and an audit table.
-/

namespace Rollout.Local

open Time (Instant)

/-- The name of the state machine every account has here. -/
def stateMachineName : String := "opa-local-pipeline"

def Setup.parametersOf (m : Manifest) (p : Provider) : List (String × String) := [
  (p.vpcPath, "vpc-" ++ p.providerName),
  (p.clusterPath,
    "arn:aws:ecs:" ++ p.region ++ ":" ++ p.accountId ++ ":cluster/" ++ p.providerName),
  (m.spec.parameters.stateMachinePath,
    "arn:aws:states:" ++ p.region ++ ":" ++ p.accountId ++ ":stateMachine:" ++ stateMachineName),
  (Audit.tablePath m.spec.federation.platform p.providerName, p.providerName ++ "-audit")]

def Setup.provide (m : Manifest) (s : ParameterStore) (p : Provider) : ParameterStore :=
  (parametersOf m p).foldl (fun s entry => s.put p.accountId entry.1 entry.2) s

def Setup.parameters (m : Manifest) : ParameterStore :=
  (m.spec.catalog.environments.entries.flatMap (·.2)).foldl (provide m) {}

def World.ofManifest (m : Manifest) (runner : Runner) (now : Instant) (seed : Nat) : World :=
  { environments := ⟨m.spec.catalog.environments⟩
    parameters := Setup.parameters m
    workflow := .pipeline { runner, nextId := seed }
    clock := ⟨now, 0⟩ }

end Rollout.Local
