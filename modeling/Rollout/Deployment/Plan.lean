import Rollout.Audit.Writer

/-!
A deployment one step at a time: a call to a port, or something to be recorded
in the ledger. How a record is written is the writer's business.
-/

namespace Rollout

inductive Step where
  | call (c : Call)
  | record (grant : Grant) (entry : AuditEntry)
  deriving DecidableEq, Repr

def Step.Answer : Step → Type
  | .call c => c.Answer
  | .record _ _ => AuditOutcome

/-- The calls a step makes. -/
def Step.program : (step : Step) → Program step.Answer
  | .call c => Program.call c
  | .record grant entry => Audit.record grant entry

abbrev Plan : Type → Type := Dialogue Step Step.Answer

namespace Plan

variable {α : Type}

def call (c : Call) : Plan c.Answer := .ask (.call c) .done

def record (grant : Grant) (entry : AuditEntry) : Plan AuditOutcome :=
  .ask (.record grant entry) .done

/-- A program none of whose calls is hidden in a record. -/
def ofProgram (program : Program α) : Plan α := program.expand call

def program (plan : Plan α) : Program α := plan.expand Step.program

end Plan

end Rollout
