import Rollout.Local.World

/-!
Changes to the local world between deployments: values put, failures arranged.
-/

namespace Rollout.Local

inductive Change where
  | putParameter (account path value : String)
  | failPath (path : String)
  | denyRole (role : String)
  | setLedger (unavailable : Bool)
  | setEnvironment (name : String) (providers : List Provider)
  | failPackage (repository : String)
  | failDeploy (repository : String)
  deriving Repr

/-- A replay has no runner of its own. -/
def Workflow.runner : Workflow → Runner
  | .pipeline schedule => schedule.runner
  | .replay _ => {}

def Workflow.changeRunner (f : Runner → Runner) : Workflow → Workflow
  | .pipeline schedule => .pipeline { schedule with runner := f schedule.runner }
  | .replay recorded => .replay recorded

def World.apply (w : World) : Change → World
  | .putParameter account path value =>
    { w with parameters := w.parameters.put account path value }
  | .failPath path => { w with parameters := w.parameters.failPath path }
  | .denyRole role => { w with issuer := w.issuer.deny role }
  | .setLedger unavailable => { w with ledger := { w.ledger with unavailable } }
  | .setEnvironment name providers =>
    { w with environments := w.environments.insert name providers }
  | .failPackage repository =>
    { w with workflow := w.workflow.changeRunner (·.failPackage repository) }
  | .failDeploy repository =>
    { w with workflow := w.workflow.changeRunner (·.failDeploy repository) }

end Rollout.Local
