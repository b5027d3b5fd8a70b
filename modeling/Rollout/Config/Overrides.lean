import Rollout.Config.Manifest
import Rollout.Environment
import Rollout.Numeral.Whole
import Rollout.Time.Reader

/-!
Environment variables that override settings of the manifest. A number that
cannot be read leaves its setting as it is.
-/

namespace Rollout

/-- A whole number up to a limit, in decimal digits with at most a plus before them. -/
def decimalUpTo? (limit : Nat) (s : String) : Option Nat :=
  let digits := match s.toList with
    | '+' :: rest => rest
    | cs => cs
  if digits.isEmpty || !digits.all Char.isDigit then none
  else
    let n := Time.digitsValue digits
    if n ≤ limit then some n else none

namespace Manifest

def withOverrides (m : Manifest) (environment : Environment) : Manifest :=
  let spec := m.spec
  let number : String → Nat → Nat → Nat := fun name bits usual =>
    ((environment name).bind (decimalUpTo? (Numeral.greatest bits))).getD usual
  { m with spec := { spec with
    federation := { spec.federation with
      platform := (environment "OPA_ROLE_PREFIX").getD spec.federation.platform }
    monitor := { spec.monitor with
      pollIntervalMs := number "OPA_POLL_INTERVAL_MS" 64 spec.monitor.pollIntervalMs
      historyWindow := number "OPA_HISTORY_WINDOW_SIZE" 32 spec.monitor.historyWindow }
    catalog := { spec.catalog with
      baseUrl := (environment "OPA_CATALOG_URL").or spec.catalog.baseUrl
      token := (environment "OPA_CATALOG_TOKEN").or spec.catalog.token }
    aws := { spec.aws with
      endpointUrl := (environment "OPA_AWS_ENDPOINT_URL").or spec.aws.endpointUrl } } }

end Manifest

end Rollout
