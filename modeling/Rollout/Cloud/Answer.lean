import Rollout.Audit.Sequence
import Rollout.Cloud.SecurityToken
import Rollout.Cloud.StateMachine
import Rollout.Cloud.Stores
import Rollout.Deployment.Program
import Rollout.Execution.Monitor
import Rollout.Host

/-!
The calls of a deployment answered by the cloud's services. Only the assumption
of roles and the look-up of mappings are made with the platform's own identity.
-/

namespace Rollout.Cloud

variable {m : Type → Type} [Monad m]

/-- The next sequence value by the host's clock. -/
def stamp (host : Host m) : StateT AuditSequence m Int := do
  let micros := (← host.now).micros
  let sequence ← get
  set (sequence.advance micros)
  return sequence.next micros

/-- A look-up in the platform's table; without a table no group has a role. -/
def findRole (host : Host m) (table : Option String) (account : AccountId) (group : String) :
    m (Except CredentialError (Option RoleArn)) := do
  match table with
  | none => return .ok none
  | some table => return Table.readRole (← host.cloud (Table.roleRequest table account group))

def answer (host : Host m) (table : Option String)
    (catalog : EntityRef → m (Except CatalogError (List Provider))) :
    (call : Call) → StateT AuditSequence m call.Answer
  | .providers environment => liftM (catalog environment)
  | .findRole account group => liftM (findRole host table account group)
  | .assumeRole request => do
    return SecurityToken.read request.role (← host.cloud (SecurityToken.assumeRequest request))
  | .parameter grant path => do
    return ParameterStore.read path (← host.cloud (ParameterStore.getRequest grant path))
  | .startExecution grant stateMachine input => do
    let reply ← host.cloud (StateMachine.startRequest grant stateMachine input)
    return StateMachine.readStarted (← host.now) reply
  | .describe grant execution => do
    let reply ← host.cloud (StateMachine.describeRequest grant execution)
    return StateMachine.readDescription (← host.now) execution reply
  | .history grant execution limit => do
    let reply ← host.cloud (StateMachine.historyRequest grant execution limit)
    return StateMachine.readHistory (← host.now) execution reply
  | .stamp => stamp host
  | .append grant table record => do
    return Table.readAppended table (← host.cloud (Table.appendRequest grant table record))
  | .clock => liftM host.now
  | .sleep milliseconds => liftM (host.sleep milliseconds)
  | .showEvent status event => liftM (host.report (Monitor.eventLine status event))
  | .showHeartbeat status lastId lastType dots =>
    liftM (host.report (Monitor.heartbeatLine status lastId lastType dots))

end Rollout.Cloud
