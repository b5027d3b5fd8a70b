import Rollout.Deployment.Program
import Rollout.Text.Lowercase

/-!
Reading parameters and writing audit records. A parameter that is missing and
one that is empty are the same. The audit table is looked up anew for every
record; without it nothing is written and no sequence value is used.
-/

namespace Rollout

/-- The value at a path of the target account's parameter store. -/
def readParameter (grant : Grant) (path : String) : Program (Except ParameterError String) := do
  match ← Program.call (.parameter grant path) with
  | .error e => return .error e
  | .ok (some value) => return if value.isEmpty then .error (.notFound path) else .ok value
  | .ok none => return .error (.notFound path)

namespace Audit

/-- Where the name of a provider's audit table is kept. -/
def tablePath (platform provider : String) : String :=
  Text.lower ("/" ++ platform ++ "/" ++ provider ++ "/" ++ provider ++ "-audit")

def write (grant : Grant) (entry : AuditEntry) (table : String) : Program AuditOutcome := do
  let sequence ← Program.call .stamp
  let record := AuditRecord.ofEntry entry sequence
  match ← Program.call (.append grant table record) with
  | .error e => return .failure e.message
  | .ok () => return .success record.id

def record (grant : Grant) (entry : AuditEntry) : Program AuditOutcome := do
  match ← readParameter grant (tablePath entry.platform entry.provider) with
  | .error e => return .failure e.message
  | .ok table => write grant entry table

end Audit

end Rollout
