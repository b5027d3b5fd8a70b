import Rollout.Execution.Monitor
import Rollout.Proofs.Runs

/-!
A watched execution poll by poll. A poll has four ways to go, and a watch is a
row of polls of which only the last is not of the fourth kind.
-/

namespace Rollout

/-- Calls that ask nothing of the engine. -/
def Call.displays : Call → Bool
  | .sleep _ | .showEvent _ _ | .showHeartbeat _ _ _ _ => true
  | _ => false

def Call.watches : Call → Bool
  | .describe _ _ | .history _ _ _ => true
  | c => c.displays

namespace Monitor

open Dialogue

/-- Events shown one after the other. -/
def shows (status : ExecutionStatus) (events : List HistoryEvent) : Trace :=
  events.map fun event => ⟨.showEvent status event, ()⟩

def pauses (settings : MonitorSettings) (s : State) (status : ExecutionStatus) : Trace :=
  ⟨.sleep settings.pollIntervalMs, ()⟩ ::
    if s.heartbeatDue settings then
      [⟨.showHeartbeat status s.cursor.previous s.lastType (s.dots + 1), ()⟩]
    else []

def State.rested (s : State) (settings : MonitorSettings) : State :=
  if s.heartbeatDue settings then { s with dots := s.dots + 1 } else s

section Polls

variable (settings : MonitorSettings) (grant : Grant) (execution : ExecutionArn)

inductive Polled (s : State) :
    Trace → Except EngineError (CompletedExecution ⊕ State) → Prop
  | describeFailed (e : EngineError) :
      Polled s [⟨.describe grant execution, .error e⟩] (.error e)
  | historyFailed (details : ExecutionDescription) (e : EngineError) :
      Polled s [⟨.describe grant execution, .ok details⟩,
        ⟨.history grant execution settings.historyWindow, .error e⟩] (.error e)
  | ended (details : ExecutionDescription) (window : List HistoryEvent)
      (terminal : details.status.isTerminal = true) :
      Polled s
        (⟨.describe grant execution, .ok details⟩ ::
          ⟨.history grant execution settings.historyWindow, .ok window⟩ ::
          shows details.status (s.observe window).1)
        (.ok (.inl ⟨details.status, details, (s.observe window).2.trace⟩))
  | running (details : ExecutionDescription) (window : List HistoryEvent)
      (live : details.status.isTerminal = false) :
      Polled s
        (⟨.describe grant execution, .ok details⟩ ::
          ⟨.history grant execution settings.historyWindow, .ok window⟩ ::
          (shows details.status (s.observe window).1
            ++ pauses settings (s.observe window).2 details.status))
        (.ok (.inr ((s.observe window).2.rested settings)))

inductive Watched : Nat → State → Trace → Option (Except EngineError CompletedExecution) → Prop
  | exhausted (s : State) : Watched 0 s [] none
  | failed {polls : Nat} {s : State} {trace : Trace} {e : EngineError}
      (poll : Polled settings grant execution s trace (.error e)) :
      Watched (polls + 1) s trace (some (.error e))
  | ended {polls : Nat} {s : State} {trace : Trace} {completed : CompletedExecution}
      (poll : Polled settings grant execution s trace (.ok (.inl completed))) :
      Watched (polls + 1) s trace (some (.ok completed))
  | further {polls : Nat} {s next : State} {trace rest : Trace}
      {outcome : Option (Except EngineError CompletedExecution)}
      (poll : Polled settings grant execution s trace (.ok (.inr next)))
      (others : Watched polls next rest outcome) :
      Watched (polls + 1) s (trace ++ rest) outcome

end Polls

variable {settings : MonitorSettings} {grant : Grant} {execution : ExecutionArn}

theorem showAll_ran {status : ExecutionStatus} {events : List HistoryEvent} {trace : Trace}
    {outcome : Option Unit} (ran : (showAll status events).Ran trace outcome) :
    trace = shows status events ∧ outcome = some () := by
  induction events generalizing trace with
  | nil => exact ran_done.mp ran
  | cons event rest ih =>
      obtain ⟨_, tail, rfl, following⟩ := ran_ask.mp ran
      obtain ⟨rfl, rfl⟩ := ih following
      exact ⟨rfl, rfl⟩

theorem pause_ran {s : State} {status : ExecutionStatus} {trace : Trace} {outcome : Option State}
    (ran : (pause settings s status).Ran trace outcome) :
    trace = pauses settings s status ∧ outcome = some (s.rested settings) := by
  obtain ⟨_, rest, rfl, following⟩ := ran_ask.mp ran
  by_cases due : s.heartbeatDue settings = true
  · simp only [due, if_true] at following
    obtain ⟨_, _, rfl, ended⟩ := ran_ask.mp following
    obtain ⟨rfl, rfl⟩ := ran_done.mp ended
    simp only [pauses, State.rested, due, if_true]
    exact ⟨rfl, trivial⟩
  · simp only [due] at following
    obtain ⟨rfl, rfl⟩ := ran_done.mp following
    simp only [pauses, State.rested, due]
    exact ⟨rfl, rfl⟩

/-- What follows once the window of a poll has been read. -/
theorem poll_rest_ran {s : State} {details : ExecutionDescription} {trace : Trace}
    {outcome : Option (Except EngineError (CompletedExecution ⊕ State))}
    (ran : Dialogue.Ran (if details.status.isTerminal then
        .done (.ok (.inl ⟨details.status, details, s.trace⟩))
      else (pause settings s details.status).bind fun next => .done (.ok (.inr next)))
      trace outcome) :
    (details.status.isTerminal = true ∧ trace = [] ∧
      outcome = some (.ok (.inl ⟨details.status, details, s.trace⟩))) ∨
    (details.status.isTerminal = false ∧ trace = pauses settings s details.status ∧
      outcome = some (.ok (.inr (s.rested settings)))) := by
  cases terminal : details.status.isTerminal with
  | true =>
      simp only [terminal, if_true] at ran
      exact Or.inl ⟨rfl, ran_done.mp ran⟩
  | false =>
      simp only [terminal] at ran
      rcases ran_bind.mp ran with ⟨stopped, _⟩ | ⟨paused, _, next, rfl, first, ended⟩
      · exact nomatch (pause_ran stopped).2
      · obtain ⟨rfl, rfl⟩ := ran_done.mp ended
        obtain ⟨rfl, same⟩ := pause_ran first
        cases same
        exact Or.inr ⟨rfl, List.append_nil _, rfl⟩

theorem poll_ran {s : State} {trace : Trace}
    {outcome : Option (Except EngineError (CompletedExecution ⊕ State))}
    (ran : (poll settings grant execution s).Ran trace outcome) :
    ∃ result, outcome = some result ∧ Polled settings grant execution s trace result := by
  obtain ⟨described, _, rfl, following⟩ := ran_ask.mp ran
  cases described with
  | error e =>
      obtain ⟨rfl, rfl⟩ := ran_done.mp following
      exact ⟨_, rfl, .describeFailed e⟩
  | ok details =>
      obtain ⟨read, _, rfl, later⟩ := ran_ask.mp following
      cases read with
      | error e =>
          obtain ⟨rfl, rfl⟩ := ran_done.mp later
          exact ⟨_, rfl, .historyFailed details e⟩
      | ok window =>
          rcases (ran_bind (p := showAll details.status (s.observe window).1)).mp later with
            ⟨stopped, _⟩ | ⟨shown, _, _, rfl, first, ended⟩
          · cases (showAll_ran stopped).2
          · obtain ⟨rfl, _⟩ := showAll_ran first
            rcases poll_rest_ran ended with ⟨terminal, rfl, rfl⟩ | ⟨live, rfl, rfl⟩
            · rw [List.append_nil]
              exact ⟨_, rfl, .ended details window terminal⟩
            · exact ⟨_, rfl, .running details window live⟩

theorem watch_ran {polls : Nat} {s : State} {trace : Trace}
    {outcome : Option (Except EngineError CompletedExecution)}
    (ran : (watch settings grant execution polls s).Ran trace outcome) :
    Watched settings grant execution polls s trace outcome := by
  induction polls generalizing s trace with
  | zero =>
      obtain ⟨rfl, rfl⟩ := ran_unfinished.mp ran
      exact .exhausted s
  | succ polls ih =>
      rcases ran_bind.mp ran with ⟨stopped, _⟩ | ⟨first, rest, result, rfl, one, following⟩
      · obtain ⟨_, absurdity, _⟩ := poll_ran stopped
        cases absurdity
      · obtain ⟨_, same, polled⟩ := poll_ran one
        cases same
        rcases result with e | completed | next
        · obtain ⟨rfl, rfl⟩ := ran_done.mp following
          rw [List.append_nil]
          exact .failed polled
        · obtain ⟨rfl, rfl⟩ := ran_done.mp following
          rw [List.append_nil]
          exact .ended polled
        · exact .further polled (ih following)

section Complete

/-! The ways are runs, too: nothing is among them that cannot happen. -/

theorem ran_showAll (status : ExecutionStatus) (events : List HistoryEvent) :
    (showAll status events).Ran (shows status events) (some ()) := by
  induction events with
  | nil => exact .done ()
  | cons event rest ih => exact ran_ask.mpr ⟨(), _, rfl, ih⟩

theorem ran_pause (s : State) (status : ExecutionStatus) :
    (pause settings s status).Ran (pauses settings s status) (some (s.rested settings)) := by
  by_cases due : s.heartbeatDue settings = true
  · simp only [pause, pauses, State.rested, due, if_true]
    exact ran_ask.mpr ⟨(), _, rfl, ran_ask.mpr ⟨(), _, rfl, .done _⟩⟩
  · simp only [pause, pauses, State.rested, due]
    exact ran_ask.mpr ⟨(), _, rfl, .done s⟩

theorem ran_poll {s : State} {trace : Trace}
    {result : Except EngineError (CompletedExecution ⊕ State)}
    (polled : Polled settings grant execution s trace result) :
    (poll settings grant execution s).Ran trace (some result) := by
  cases polled with
  | describeFailed e => exact ran_ask.mpr ⟨.error e, _, rfl, .done _⟩
  | historyFailed details e =>
      exact ran_ask.mpr ⟨.ok details, _, rfl, ran_ask.mpr ⟨.error e, _, rfl, .done _⟩⟩
  | ended details window terminal =>
      refine ran_ask.mpr ⟨.ok details, _, rfl, ran_ask.mpr ⟨.ok window, _, rfl, ?_⟩⟩
      refine (ran_bind (p := showAll details.status (s.observe window).1)).mpr
        (.inr ⟨_, [], (), (List.append_nil _).symm, ran_showAll .., ?_⟩)
      simp only [terminal, if_true]
      exact .done _
  | running details window live =>
      refine ran_ask.mpr ⟨.ok details, _, rfl, ran_ask.mpr ⟨.ok window, _, rfl, ?_⟩⟩
      refine (ran_bind (p := showAll details.status (s.observe window).1)).mpr
        (.inr ⟨_, _, (), rfl, ran_showAll .., ?_⟩)
      simp only [live]
      exact ran_bind.mpr (.inr ⟨_, [], _, (List.append_nil _).symm, ran_pause .., .done _⟩)

theorem ran_watch {polls : Nat} {s : State} {trace : Trace}
    {outcome : Option (Except EngineError CompletedExecution)}
    (watched : Watched settings grant execution polls s trace outcome) :
    (watch settings grant execution polls s).Ran trace outcome := by
  induction watched with
  | exhausted s => exact .unfinished
  | failed polled =>
      exact ran_bind.mpr (.inr ⟨_, [], _, (List.append_nil _).symm, ran_poll polled, .done _⟩)
  | ended polled =>
      exact ran_bind.mpr (.inr ⟨_, [], _, (List.append_nil _).symm, ran_poll polled, .done _⟩)
  | further polled _ ih => exact ran_bind.mpr (.inr ⟨_, _, _, rfl, ran_poll polled, ih⟩)

end Complete

theorem shows_display (status : ExecutionStatus) (events : List HistoryEvent) :
    ∀ x ∈ shows status events, x.question.displays = true := by
  intro x member
  obtain ⟨event, _, rfl⟩ := List.mem_map.mp member
  rfl

theorem pauses_display (s : State) (status : ExecutionStatus) :
    ∀ x ∈ pauses settings s status, x.question.displays = true := by
  intro x member
  rcases List.mem_cons.mp member with rfl | member
  · rfl
  · split at member
    · obtain rfl := List.mem_singleton.mp member
      rfl
    · cases member

theorem watches_of_displays {c : Call} (displays : c.displays = true) : c.watches = true := by
  cases c <;> first | rfl | exact displays

theorem polled_watches {s : State} {trace : Trace}
    {result : Except EngineError (CompletedExecution ⊕ State)}
    (poll : Polled settings grant execution s trace result) :
    ∀ x ∈ trace, x.question.watches = true := by
  have shown : ∀ (status : ExecutionStatus) (events : List HistoryEvent),
      ∀ x ∈ shows status events, x.question.watches = true :=
    fun status events x member => watches_of_displays (shows_display status events x member)
  cases poll with
  | describeFailed e => simp [Call.watches]
  | historyFailed details e => simp [Call.watches]
  | ended details window terminal =>
      exact List.forall_mem_cons.mpr ⟨rfl, List.forall_mem_cons.mpr ⟨rfl, shown _ _⟩⟩
  | running details window live =>
      refine List.forall_mem_cons.mpr ⟨rfl, List.forall_mem_cons.mpr ⟨rfl, ?_⟩⟩
      refine List.forall_mem_append.mpr ⟨shown _ _, fun x member => ?_⟩
      exact watches_of_displays (pauses_display _ _ x member)

theorem watched_watches {polls : Nat} {s : State} {trace : Trace}
    {outcome : Option (Except EngineError CompletedExecution)}
    (watch : Watched settings grant execution polls s trace outcome) :
    ∀ x ∈ trace, x.question.watches = true := by
  induction watch with
  | exhausted s => simp
  | failed poll => exact polled_watches poll
  | ended poll => exact polled_watches poll
  | further poll others ih => exact List.forall_mem_append.mpr ⟨polled_watches poll, ih⟩

/-- A watch goes on until the execution has ended, or returns none. -/
theorem watched_terminal {polls : Nat} {s : State} {trace : Trace} {completed : CompletedExecution}
    (watch : Watched settings grant execution polls s trace (some (.ok completed))) :
    completed.status.isTerminal = true := by
  generalize ended : some (Except.ok completed) = outcome at watch
  induction watch with
  | exhausted s => cases ended
  | failed poll => cases ended
  | ended poll =>
      cases ended
      cases poll with
      | ended details window terminal => exact terminal
  | further poll others ih => exact ih ended

end Monitor

end Rollout
