import Rollout.Json.Codec

/-!
An environment provider: the account, region and network paths one environment
is deployed to. The account is as the catalog gives it, not yet checked.
-/

namespace Rollout

structure Provider where
  accountId : String
  region : String
  vpcPath : String
  clusterPath : String
  environmentName : String
  providerName : String
  deriving DecidableEq, Repr

namespace Provider

def toJson (p : Provider) : Json :=
  .object [
    ("accountId", .string p.accountId),
    ("region", .string p.region),
    ("vpcParameterPath", .string p.vpcPath),
    ("clusterParameterPath", .string p.clusterPath),
    ("environmentName", .string p.environmentName),
    ("providerName", .string p.providerName)]

def decode : Decoder Provider := fun depth doc => do
  let [account, region, vpc, cluster, environment, provider] ← Decoder.record
    [["accountId"], ["region"], ["vpcParameterPath"], ["clusterParameterPath"],
      ["environmentName"], ["providerName"]] depth doc | none
  some {
    accountId := ← account.required .string
    region := ← region.required .string
    vpcPath := ← vpc.required .string
    clusterPath := ← cluster.required .string
    environmentName := ← environment.required .string
    providerName := ← provider.required .string }

instance : Codec Provider := ⟨decode, toJson⟩

end Provider

end Rollout
