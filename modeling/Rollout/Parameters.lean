import Rollout.Dict
import Rollout.Json.Basic

/-!
The nine parameters every deployment adds to the pipeline input. What the
caller sets under the same name wins.
-/

namespace Rollout

structure DeploymentParameters where
  region : String
  account : String
  vpcId : String
  clusterArn : String
  environmentName : String
  providerName : String
  user : String
  assumedRole : String
  actionType : String
  deriving DecidableEq, Repr

namespace DeploymentParameters

def entries (p : DeploymentParameters) : List (String × String) := [
  ("TARGET_REGION", p.region),
  ("TARGET_ACCOUNT", p.account),
  ("TARGET_VPCID", p.vpcId),
  ("TARGET_ECS_CLUSTER_ARN", p.clusterArn),
  ("TARGET_ENV_NAME", p.environmentName),
  ("TARGET_ENV_PROVIDER_NAME", p.providerName),
  ("USER", p.user),
  ("ASSUMED_ROLE", p.assumedRole),
  ("ACTION_TYPE", p.actionType)]

def toDict (p : DeploymentParameters) : Dict String := Dict.ofList p.entries

def mergedWith (p : DeploymentParameters) (overrides : Dict String) : Dict String :=
  p.toDict.overlay overrides

end DeploymentParameters

end Rollout
