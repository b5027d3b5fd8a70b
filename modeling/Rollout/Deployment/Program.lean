import Rollout.Audit.Record
import Rollout.Deployment.Outcome
import Rollout.Entity
import Rollout.Provider

/-!
What a deployment asks of the world around it, one call at a time. A program is
the tree of its calls; whoever runs it answers them, so a statement about all
answers is a statement about the program alone.
-/

namespace Rollout

open Time (Instant)

/-- A role to be assumed. -/
structure AssumeRole where
  role : RoleArn
  sessionName : String
  durationSeconds : Nat
  region : Region
  deriving DecidableEq, Repr

inductive Call where
  | providers (environment : EntityRef)
  | findRole (account : AccountId) (group : String)
  | assumeRole (request : AssumeRole)
  | parameter (grant : Grant) (path : String)
  | startExecution (grant : Grant) (stateMachine : String) (input : String)
  | describe (grant : Grant) (execution : ExecutionArn)
  | history (grant : Grant) (execution : ExecutionArn) (limit : Nat)
  /-- The next sequence value of the audit records. -/
  | stamp
  | append (grant : Grant) (table : String) (record : AuditRecord)
  | clock
  | sleep (milliseconds : Nat)
  | showEvent (status : ExecutionStatus) (event : HistoryEvent)
  | showHeartbeat (status : ExecutionStatus) (lastId : Int) (lastType : String) (dots : Nat)
  deriving DecidableEq, Repr

def Call.Answer : Call → Type
  | .providers _ => Except CatalogError (List Provider)
  | .findRole _ _ => Except CredentialError (Option RoleArn)
  | .assumeRole _ => Except CredentialError IssuedCredentials
  | .parameter _ _ => Except ParameterError (Option String)
  | .startExecution _ _ _ => Except EngineError StartedExecution
  | .describe _ _ => Except EngineError ExecutionDescription
  | .history _ _ _ => Except EngineError (List HistoryEvent)
  | .stamp => Int
  | .append _ _ _ => Except LedgerError Unit
  | .clock => Instant
  | .sleep _ => Unit
  | .showEvent _ _ => Unit
  | .showHeartbeat _ _ _ _ => Unit

/-- A tree of questions. What follows a question depends on its answer. -/
inductive Dialogue (Question : Type) (Answer : Question → Type) (α : Type) where
  | done (value : α)
  /-- The execution was still running when the allowance of polls was used up. -/
  | unfinished
  | ask (question : Question) (next : Answer question → Dialogue Question Answer α)

namespace Dialogue

variable {Question Small : Type} {Answer : Question → Type} {SmallAnswer : Small → Type}
variable {α β : Type}

def bind : Dialogue Question Answer α → (α → Dialogue Question Answer β) →
    Dialogue Question Answer β
  | done value, f => f value
  | unfinished, _ => unfinished
  | ask question next, f => ask question fun answer => (next answer).bind f

instance : Monad (Dialogue Question Answer) where
  pure := done
  bind := bind

/-- Every question answered by a dialogue of smaller ones. -/
def expand (small : (q : Question) → Dialogue Small SmallAnswer (Answer q)) :
    Dialogue Question Answer α → Dialogue Small SmallAnswer α
  | done value => done value
  | unfinished => unfinished
  | ask question next => (small question).bind fun answer => (next answer).expand small

/-- Runs a dialogue against whoever answers its questions. -/
def run {m : Type → Type} [Monad m] (answer : (q : Question) → m (Answer q)) :
    Dialogue Question Answer α → m (Option α)
  | done value => pure (some value)
  | unfinished => pure none
  | ask question next => do (next (← answer question)).run answer

end Dialogue

abbrev Program : Type → Type := Dialogue Call Call.Answer

/-- The answer to one call. -/
def Program.call (c : Call) : Program c.Answer := .ask c .done

end Rollout
