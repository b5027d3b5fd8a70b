/-!
One task per item, all of them run to their end: a failure never stops the
others. What is reported is decided only after every task has a result, and in
item order, so it does not depend on which task ended first.
-/

namespace Rollout

/-- Where one task stands. -/
inductive TaskState (ε α : Type) where
  | waiting
  | working
  | settled (result : Except ε α)
  deriving Repr

namespace TaskState

variable {ε α : Type}

def begin? : TaskState ε α → Option (TaskState ε α)
  | waiting => some working
  | _ => none

def settle? (result : Except ε α) : TaskState ε α → Option (TaskState ε α)
  | working => some (settled result)
  | _ => none

end TaskState

/-- The results of all tasks, in item order. -/
structure FanOutReport (ε α : Type) where
  results : List (String × Except ε α)
  deriving Repr

structure FanOutFailure (ε : Type) where
  item : String
  error : ε
  completed : Nat
  failed : Nat
  deriving Repr

namespace FanOutReport

variable {ε α : Type}

def isOk : Except ε α → Bool
  | .ok _ => true
  | .error _ => false

def completed (r : FanOutReport ε α) : Nat := r.results.countP fun entry => isOk entry.2

def failed (r : FanOutReport ε α) : Nat := r.results.length - r.completed

def failure? : String × Except ε α → Option (String × ε)
  | (item, .error e) => some (item, e)
  | (_, .ok _) => none

def value? : String × Except ε α → Option (String × α)
  | (item, .ok v) => some (item, v)
  | (_, .error _) => none

def firstFailure? (r : FanOutReport ε α) : Option (String × ε) := r.results.findSome? failure?

/-- What a pass over the results has met: the values, and the failure it met first. -/
structure Passed (ε α : Type) where
  values : List (String × α)
  failure : Option (String × ε)

/-- Goes on to the next result; a failure after the first one changes nothing. -/
def Passed.next (p : Passed ε α) : String × Except ε α → Passed ε α
  | (item, .ok v) => { p with values := p.values ++ [(item, v)] }
  | (item, .error e) => { p with failure := p.failure.or (some (item, e)) }

/-- All values in item order, or the first failure in item order, found in one pass. -/
def toExcept (r : FanOutReport ε α) : Except (FanOutFailure ε) (List (String × α)) :=
  match r.results.foldl Passed.next ⟨[], none⟩ with
  | ⟨_, some (item, error)⟩ => .error ⟨item, error, r.completed, r.failed⟩
  | ⟨values, none⟩ => .ok values

end FanOutReport

/-- A group of tasks under way, in item order. -/
structure FanOut (ε α : Type) where
  tasks : List (String × TaskState ε α)
  deriving Repr

namespace FanOut

variable {ε α : Type}

def ofItems (items : List String) : FanOut ε α := ⟨items.map fun item => (item, .waiting)⟩

/-- Moves the task at a position on, if it stands where that is possible. -/
def move? (change : TaskState ε α → Option (TaskState ε α)) (position : Nat) (f : FanOut ε α) :
    Option (FanOut ε α) := do
  let (item, task) ← f.tasks[position]?
  let moved ← change task
  some ⟨f.tasks.set position (item, moved)⟩

def begin? (f : FanOut ε α) (position : Nat) : Option (FanOut ε α) :=
  f.move? TaskState.begin? position

def settle? (f : FanOut ε α) (position : Nat) (result : Except ε α) : Option (FanOut ε α) :=
  f.move? (TaskState.settle? result) position

def item? (f : FanOut ε α) (position : Nat) : Option String := f.tasks[position]?.map (·.1)

def entry? : String × TaskState ε α → Option (String × Except ε α)
  | (item, .settled result) => some (item, result)
  | _ => none

/-- The report, once every task has its result. -/
def report? (f : FanOut ε α) : Option (FanOutReport ε α) := (f.tasks.mapM entry?).map .mk

end FanOut

/-- A task known beforehand: how long it takes and how it ends. -/
structure TimedTask (ε α : Type) where
  item : String
  milliseconds : Nat
  result : Except ε α
  deriving Repr

namespace TimedTask

variable {ε α : Type}

/-- Positions in the order in which the tasks end; of two that end together the first is first. -/
def endingOrder (tasks : List (TimedTask ε α)) : List Nat :=
  (tasks.zipIdx.mergeSort fun a b => a.1.milliseconds ≤ b.1.milliseconds).map (·.2)

def settleAt (tasks : List (TimedTask ε α)) (f : FanOut ε α) (position : Nat) : FanOut ε α :=
  match tasks[position]? with
  | some task => ((f.begin? position).bind fun g => g.settle? position task.result).getD f
  | none => f

/-- The report after all tasks were begun together and have ended one by one. -/
def run? (tasks : List (TimedTask ε α)) : Option (FanOutReport ε α) :=
  ((endingOrder tasks).foldl (settleAt tasks) (.ofItems (tasks.map (·.item)))).report?

end TimedTask

end Rollout
