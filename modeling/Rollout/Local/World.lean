import Rollout.Audit.Sequence
import Rollout.Deployment.Deploy
import Rollout.Local.Issuer
import Rollout.Local.Replay
import Rollout.Local.Schedule
import Rollout.Local.Stores

/-!
Everything a deployment talks to, kept in memory. Time stands still except for
pauses, during which the local engine goes on.
-/

namespace Rollout.Local

open Time (Instant)

inductive Workflow where
  | pipeline (schedule : Schedule)
  | replay (recorded : Replay)
  deriving Repr, Inhabited

/-- What a watched execution was seen to do. -/
inductive Sighting where
  | newEvent (status : ExecutionStatus) (event : HistoryEvent)
  | heartbeat (status : ExecutionStatus) (lastId : Int) (lastType : String) (dots : Nat)
  deriving DecidableEq, Repr

def Sighting.line : Sighting → String
  | .newEvent status event => Monitor.eventLine status event
  | .heartbeat status lastId lastType dots => Monitor.heartbeatLine status lastId lastType dots

structure World where
  environments : Environments := ⟨∅⟩
  mappings : RoleMapping := {}
  issuer : Issuer := {}
  parameters : ParameterStore := {}
  ledger : Ledger := {}
  workflow : Workflow := .pipeline {}
  clock : Schedule.Clock
  sequence : AuditSequence := {}
  /-- What was shown so far, oldest first. -/
  shown : List Sighting := []
  deriving Repr

namespace World

def startExecution (w : World) (grant : Grant) (stateMachine input : String) :
    Except EngineError StartedExecution × World :=
  match w.workflow with
  | .pipeline schedule =>
    let (answer, schedule) :=
      schedule.start grant.region grant.account stateMachine input w.clock
    (answer, { w with workflow := .pipeline schedule })
  | .replay recorded =>
    let (answer, recorded) := recorded.start stateMachine input
    (answer, { w with workflow := .replay recorded })

def describe (w : World) (execution : ExecutionArn) :
    Except EngineError ExecutionDescription × World :=
  match w.workflow with
  | .pipeline schedule => (schedule.engine.describe execution, w)
  | .replay recorded =>
    let (answer, recorded) := recorded.describe execution
    (answer, { w with workflow := .replay recorded })

def history (w : World) (execution : ExecutionArn) (limit : Nat) :
    Except EngineError (List HistoryEvent) × World :=
  match w.workflow with
  | .pipeline schedule => (schedule.engine.history execution limit, w)
  | .replay recorded =>
    let (answer, recorded) := recorded.history limit
    (answer, { w with workflow := .replay recorded })

def sleep (w : World) (milliseconds : Nat) : World :=
  match w.workflow with
  | .pipeline schedule =>
    let (schedule, clock) := schedule.advance w.clock milliseconds
    { w with workflow := .pipeline schedule, clock }
  | .replay _ =>
    { w with clock := { w.clock with milliseconds := w.clock.milliseconds + milliseconds } }

def stamp (w : World) : Int × World :=
  let micros := w.clock.now.micros
  (w.sequence.next micros, { w with sequence := w.sequence.advance micros })

def answer (w : World) : (call : Call) → call.Answer × World
  | .providers environment => (w.environments.find environment, w)
  | .findRole account group =>
    let (role, mappings) := w.mappings.ask account group
    (role, { w with mappings })
  | .assumeRole request =>
    let (issued, issuer) := w.issuer.assume request w.clock.now
    (issued, { w with issuer })
  | .parameter grant path => (w.parameters.get grant.account path, w)
  | .startExecution grant stateMachine input => w.startExecution grant stateMachine input
  | .describe _ execution => w.describe execution
  | .history _ execution limit => w.history execution limit
  | .stamp => w.stamp
  | .append _ table record =>
    let (written, ledger) := w.ledger.append table record
    (written, { w with ledger })
  | .clock => (w.clock.now, w)
  | .sleep milliseconds => ((), w.sleep milliseconds)
  | .showEvent status event => ((), { w with shown := w.shown ++ [.newEvent status event] })
  | .showHeartbeat status lastId lastType dots =>
    ((), { w with shown := w.shown ++ [.heartbeat status lastId lastType dots] })

/-- Runs a program against the world. -/
def run {α : Type} (w : World) (program : Program α) : Option α × World :=
  (program.run (m := StateM World) fun call w => w.answer call).run w

end World

end Rollout.Local
