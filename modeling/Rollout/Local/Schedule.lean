import Rollout.Local.Engine
import Rollout.Local.Runner

/-!
The local engine in time. Each execution goes on until it has to pause, and is
due again when the pause is over; items of one map stage pause together. Of
executions due at one time the one that has waited longest goes first. Each has
an identifier in the form of a random UUID; numbers below 2^122 that differ have
identifiers that differ.
-/

namespace Rollout.Local

open Time (Instant)

def hexDigits (width n : Nat) : List Char :=
  let digits := Nat.toDigits 16 n
  List.replicate (width - digits.length) '0' ++ digits

/-- The number that the bits of `n` from `low` on spell, `count` of them. -/
def bits (n low count : Nat) : Nat := n / Nat.pow 2 low % Nat.pow 2 count

/-- Five groups of hexadecimal digits, marked as version 4 of variant 1. -/
def identifier (n : Nat) : String :=
  String.ofList (
    hexDigits 8 (bits n 90 32) ++ '-' :: hexDigits 4 (bits n 74 16)
      ++ '-' :: '4' :: hexDigits 3 (bits n 62 12)
      ++ '-' :: hexDigits 4 (0x8000 + bits n 48 14)
      ++ '-' :: hexDigits 12 (bits n 0 48))

structure Schedule where
  engine : Engine := {}
  runner : Runner := {}
  /-- Milliseconds before every stage and every item. -/
  stepDelay : Nat := 0
  /-- Executions with the time at which they go on. -/
  due : List (String × Nat) := []
  /-- The number of the next identifier. -/
  nextId : Nat := 0
  deriving Repr, Inhabited

namespace Schedule

/-- A time in milliseconds as an instant, counted from `base`. -/
structure Clock where
  base : Instant
  milliseconds : Nat
  deriving DecidableEq, Repr, Inhabited

def Clock.now (c : Clock) : Instant := c.base.addMillis c.milliseconds

def start (s : Schedule) (region : Region) (account : AccountId) (stateMachine input : String)
    (clock : Clock) : Except EngineError StartedExecution × Schedule :=
  let (started, engine) :=
    s.engine.start region account stateMachine input (identifier s.nextId) clock.now
  match started with
  | .error e => (.error e, s)
  | .ok accepted =>
    (.ok accepted, { s with
      engine
      due := s.due ++ [(accepted.execution.text, clock.milliseconds)]
      nextId := s.nextId + 1 })

def move (execution : String) (now : Instant) (step : Step) (s : Schedule) : Schedule :=
  { s with engine := (s.engine.step? execution step now).getD s.engine }

/-- Lets the runner do the job of the item at a position, which ends the way the runner says. -/
def settle (execution : String) (now : Instant) (s : Schedule) (position : Nat) : Schedule :=
  match (s.engine.run? execution).bind fun run => run.job? position with
  | none => s
  | some (.package repository) =>
    s.move execution now (.endPackage position (s.runner.package repository))
  | some (.deploy repository build) =>
    let (outputs, runner) := s.runner.deploy repository build
    let result := outputs.map fun outputs => ⟨repository ++ ":" ++ identifier s.nextId, outputs⟩
    { s with runner, nextId := s.nextId + 1 }.move execution now (.endDeploy position result)

/-- How far an execution came. -/
inductive Progress where
  | goesOn (s : Schedule)
  | pauses (s : Schedule)
  | ended (s : Schedule)

/-- The items of a map stage: begun together before a pause and ended together after it. -/
def mapStage (execution : String) (now : Instant) (rested : Bool) (count : Nat)
    (begin : Nat → Step) (s : Schedule) : Progress :=
  let positions := List.range count
  if rested then
    .goesOn ((positions.foldl (settle execution now) s).move execution now .leave)
  else if s.stepDelay = 0 || positions.isEmpty then
    .goesOn ((positions.foldl (fun s position =>
      (s.move execution now (begin position)).settle execution now position) s).move
        execution now .leave)
  else .pauses (positions.foldl (fun s position => s.move execution now (begin position)) s)

/-- Does the first piece of work an execution has left; `rested` after its pause. -/
def work (s : Schedule) (execution : String) (now : Instant) (rested : Bool) : Progress :=
  match s.engine.run? execution with
  | none => .ended s
  | some run =>
    match run.todo with
    | [] => .ended (s.move execution now .stop)
    | .note _ _ :: _ => .goesOn (s.move execution now .write)
    | .pause :: _ =>
      if rested || s.stepDelay = 0 then .goesOn (s.move execution now .wake) else .pauses s
    | .packages :: _ => mapStage execution now rested run.input.repositories.length .beginPackage s
    | .deploys :: _ => mapStage execution now rested run.input.repositories.length .beginDeploy s

/-- Pieces of work between two pauses, at most. -/
def stretch : Nat := plan.length + 2

/-- Lets an execution go on until it pauses or ends. -/
def goOn (execution : String) (clock : Clock) : Nat → Bool → Schedule → Schedule
  | 0, _, s => s
  | fuel + 1, rested, s =>
    match s.work execution clock.now rested with
    | .goesOn s => goOn execution clock fuel false s
    | .pauses s => { s with due := s.due ++ [(execution, clock.milliseconds + s.stepDelay)] }
    | .ended s => s

/-- The execution that goes on first. -/
def first? : List (String × Nat) → Option (String × Nat)
  | [] => none
  | entry :: rest =>
    match first? rest with
    | some next => if next.2 < entry.2 then some next else some entry
    | none => some entry

/-- Lets everything happen that is due up to a time. -/
def runUntil (base : Instant) (time : Nat) : Nat → Schedule → Schedule
  | 0, s => s
  | fuel + 1, s =>
    match first? s.due with
    | none => s
    | some (execution, time') =>
      if time < time' then s
      else
        runUntil base time fuel
          (goOn execution ⟨base, time'⟩ stretch true
            { s with due := s.due.eraseP fun entry => entry.1 == execution })

/-- An execution pauses less often than its plan has pieces. -/
def advance (s : Schedule) (clock : Clock) (milliseconds : Nat) : Schedule × Clock :=
  let later : Clock := ⟨clock.base, clock.milliseconds + milliseconds⟩
  (runUntil later.base later.milliseconds (s.due.length * stretch) s, later)

end Schedule

end Rollout.Local
