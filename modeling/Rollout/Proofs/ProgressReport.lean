import Rollout.Proofs.HistoryWindow
import Rollout.Proofs.Watching

/-!
What a watch reports of an engine whose history only grows. Every exchange
happens at a moment with a history of its own, so events may be appended between
any two calls. A poll passes on what its window holds of the new events.
-/

namespace Rollout

open Dialogue

/-- An exchange and the history the engine has at that time. -/
structure Moment where
  log : List HistoryEvent
  exchange : Exchange Call Call.Answer

def Exchange.shown? (x : Exchange Call Call.Answer) : Option HistoryEvent :=
  match x.question with
  | .showEvent _ event => some event
  | _ => none

/-- The events handed to the observer. -/
def Trace.shown (calls : Trace) : List HistoryEvent := calls.filterMap Exchange.shown?

theorem Trace.shown_append (first second : Trace) :
    Trace.shown (first ++ second) = first.shown ++ second.shown := List.filterMap_append

namespace Moment

/-- The history a poll read through its window. -/
def read? (x : Moment) : Option (List HistoryEvent) :=
  match x.exchange with
  | ⟨.history _ _ _, .ok _⟩ => some x.log
  | _ => none

/-- The execution was described as ended. -/
def SawEnd (x : Moment) : Prop :=
  ∃ grant execution details, x.exchange = ⟨.describe grant execution, .ok details⟩ ∧
    details.status.isTerminal = true

theorem read_log {x : Moment} {log : List HistoryEvent} (read : x.read? = some log) :
    x.log = log := by
  unfold read? at read
  split at read
  · exact Option.some.inj read
  · cases read

theorem read_display {x : Moment} (displays : x.exchange.question.displays = true) :
    x.read? = none := by
  unfold read?
  split
  · next same =>
      rw [same] at displays
      cases displays
  · rfl

end Moment

def polled (run : List Moment) : List (List HistoryEvent) := run.filterMap Moment.read?

/-- Events are only ever appended, numbered from one, and a window is the end of the history. -/
structure AppendOnly (run : List Moment) : Prop where
  grows : run.Pairwise fun early late => early.log <+: late.log
  numbered : ∀ x ∈ run, NumberedFrom 0 x.log
  windowed : ∀ x ∈ run, ∀ grant execution limit window,
    x.exchange = ⟨.history grant execution limit, .ok window⟩ →
    window = x.log.drop (x.log.length - limit)

section Polled

variable {run first second : List Moment}

theorem polled_append : polled (first ++ second) = polled first ++ polled second :=
  List.filterMap_append

theorem polled_log {log : List HistoryEvent} (member : log ∈ polled run) :
    ∃ x ∈ run, x.log = log := by
  obtain ⟨x, inside, read⟩ := List.mem_filterMap.mp member
  exact ⟨x, inside, Moment.read_log read⟩

theorem polled_display (displays : ∀ x ∈ run, x.exchange.question.displays = true) :
    polled run = [] := by
  exact List.filterMap_eq_nil_iff.mpr fun x member => Moment.read_display (displays x member)

theorem appendOnly_append (engine : AppendOnly (first ++ second)) :
    AppendOnly first ∧ AppendOnly second ∧ ∀ x ∈ first, ∀ y ∈ second, x.log <+: y.log := by
  obtain ⟨one, two, across⟩ := List.pairwise_append.mp engine.grows
  refine ⟨⟨one, ?_, ?_⟩, ⟨two, ?_, ?_⟩, across⟩
  · exact fun x member => engine.numbered x (List.mem_append_left _ member)
  · exact fun x member => engine.windowed x (List.mem_append_left _ member)
  · exact fun x member => engine.numbered x (List.mem_append_right _ member)
  · exact fun x member => engine.windowed x (List.mem_append_right _ member)

/-- The histories of the polls grow as the history does. -/
theorem polled_grows (engine : AppendOnly run) : (polled run).Pairwise (· <+: ·) := by
  refine List.pairwise_filterMap.mpr (engine.grows.imp ?_)
  intro early late grown one read two again
  rwa [← Moment.read_log read, ← Moment.read_log again]

theorem polled_numbered (engine : AppendOnly run) : ∀ log ∈ polled run, NumberedFrom 0 log := by
  intro log member
  obtain ⟨x, inside, rfl⟩ := polled_log member
  exact engine.numbered x inside

end Polled

theorem reports_append (window seen : Nat) (log : List HistoryEvent)
    (logs : List (List HistoryEvent)) :
    reports window seen (log :: logs) =
      reports window seen [log] ++ reports window log.length logs := by
  simp [reports]

namespace Monitor

theorem shows_shown (status : ExecutionStatus) (events : List HistoryEvent) :
    Trace.shown (shows status events) = events := by
  induction events with
  | nil => rfl
  | cons event rest ih => exact congrArg (event :: ·) ih

theorem pauses_shown (settings : MonitorSettings) (s : State) (status : ExecutionStatus) :
    Trace.shown (pauses settings s status) = [] := by
  unfold pauses
  split <;> rfl

section Watch

variable {settings : MonitorSettings} {grant : Grant} {execution : ExecutionArn}

/-- What the two reads of a poll come to. -/
theorem poll_read {s : State} {details : ExecutionDescription} {window : List HistoryEvent}
    {run : List Moment} {shown : Trace} {seen : Nat}
    (same : run.map Moment.exchange =
      ⟨.describe grant execution, .ok details⟩ ::
        ⟨.history grant execution settings.historyWindow, .ok window⟩ :: shown)
    (displays : ∀ x ∈ shown, x.question.displays = true)
    (engine : AppendOnly run) (opened : 1 ≤ settings.historyWindow)
    (cursor : s.cursor = .after seen) (behind : ∀ x ∈ run, seen ≤ x.log.length) :
    ∃ log, polled run = [log] ∧
      (s.observe window).1 = reports settings.historyWindow seen [log] ∧
      (s.observe window).2.cursor = .after log.length ∧
      (details.status.isTerminal = true → ∃ x ∈ run, x.SawEnd ∧ x.log <+: log) := by
  obtain ⟨described, rest, rfl, described_exchange, tail⟩ := List.map_eq_cons_iff.mp same
  obtain ⟨read, others, rfl, read_exchange, rfl⟩ := List.map_eq_cons_iff.mp tail
  have member : read ∈ described :: read :: others := by simp
  have numbered := engine.numbered read member
  -- The window ends with the history at the second read, which may be longer than at the first.
  have held := engine.windowed read member grant execution _ window read_exchange
  have quiet : polled others = [] :=
    polled_display fun x inside => displays x.exchange (List.mem_map_of_mem inside)
  have taken := takeNew_window numbered (behind read member) opened
  refine ⟨read.log, ?_, ?_, ?_, ?_⟩
  · have unread : described.read? = none := by
      rw [Moment.read?, described_exchange]
    have found : read.read? = some read.log := by
      rw [Moment.read?, read_exchange]
    rw [polled, List.filterMap_cons, unread, List.filterMap_cons, found]
    exact congrArg (read.log :: ·) quiet
  · rw [reports_cons numbered, reports, List.append_nil]
    simp only [State.observe, cursor, held, taken]
  · simp only [State.observe, cursor, held, taken]
  · intro terminal
    refine ⟨described, by simp, ⟨grant, execution, details, described_exchange, terminal⟩, ?_⟩
    exact (List.pairwise_cons.mp engine.grows).1 read (by simp)

theorem observe_trace (s : State) (window : List HistoryEvent) :
    (s.observe window).2.trace = s.trace ++ (s.observe window).1 := rfl

theorem rested_cursor (s : State) : (s.rested settings).cursor = s.cursor := by
  unfold State.rested
  split <;> rfl

theorem rested_trace (s : State) : (s.rested settings).trace = s.trace := by
  unfold State.rested
  split <;> rfl

/-- A poll that fails reports nothing. -/
theorem failed_poll_reads {s : State} {trace : Trace} {e : EngineError} {run : List Moment}
    (poll : Polled settings grant execution s trace (.error e))
    (same : run.map Moment.exchange = trace) : polled run = [] ∧ trace.shown = [] := by
  cases poll with
  | describeFailed e =>
      obtain ⟨described, rest, rfl, exchange, tail⟩ := List.map_eq_cons_iff.mp same
      obtain rfl := List.map_eq_nil_iff.mp tail
      have unread : described.read? = none := by rw [Moment.read?, exchange]
      exact ⟨by rw [polled, List.filterMap_cons, unread, List.filterMap_nil], rfl⟩
  | historyFailed details e =>
      obtain ⟨described, rest, rfl, exchange, tail⟩ := List.map_eq_cons_iff.mp same
      obtain ⟨read, others, rfl, failed, last⟩ := List.map_eq_cons_iff.mp tail
      obtain rfl := List.map_eq_nil_iff.mp last
      have unread : described.read? = none := by rw [Moment.read?, exchange]
      have lost : read.read? = none := by rw [Moment.read?, failed]
      exact ⟨by rw [polled, List.filterMap_cons, unread, List.filterMap_cons, lost,
        List.filterMap_nil], rfl⟩

/-- Poll by poll, what is shown is what the window holds of the new events, and the trace grows
by what is shown. -/
theorem watched_reports {polls : Nat} {s : State} {trace : Trace} {run : List Moment} {seen : Nat}
    {outcome : Option (Except EngineError CompletedExecution)}
    (watch : Watched settings grant execution polls s trace outcome)
    (same : run.map Moment.exchange = trace) (engine : AppendOnly run)
    (opened : 1 ≤ settings.historyWindow) (cursor : s.cursor = .after seen)
    (behind : ∀ x ∈ run, seen ≤ x.log.length) :
    trace.shown = reports settings.historyWindow seen (polled run) ∧
    ∀ completed, outcome = some (.ok completed) → completed.trace = s.trace ++ trace.shown ∧
      ∃ log, (polled run).getLast? = some log ∧ ∃ x ∈ run, x.SawEnd ∧ x.log <+: log := by
  induction watch generalizing run seen with
  | exhausted s =>
      obtain rfl := List.map_eq_nil_iff.mp same
      exact ⟨rfl, fun _ absurdity => nomatch absurdity⟩
  | failed poll =>
      obtain ⟨unread, unshown⟩ := failed_poll_reads poll same
      rw [unread, unshown]
      exact ⟨rfl, fun _ absurdity => nomatch absurdity⟩
  | @ended polls s trace completed poll =>
      cases poll with
      | ended details window terminal =>
          obtain ⟨log, one, fresh, _, ends⟩ :=
            poll_read same (shows_display _ _) engine opened cursor behind
          have shown : Trace.shown (⟨.describe grant execution, .ok details⟩ ::
              ⟨.history grant execution settings.historyWindow, .ok window⟩ ::
              shows details.status (s.observe window).1) = (s.observe window).1 :=
            shows_shown ..
          rw [shown, one]
          refine ⟨fresh, ?_⟩
          rintro _ ⟨⟩
          exact ⟨observe_trace s window, log, rfl, ends terminal⟩
  | @further polls s next trace rest outcome poll others ih =>
      obtain ⟨first, second, rfl, here, there⟩ := List.map_eq_append_iff.mp same
      obtain ⟨engine, later_engine, across⟩ := appendOnly_append engine
      obtain ⟨behind, _⟩ := List.forall_mem_append.mp behind
      cases poll with
      | running details window live =>
          have displays : ∀ x ∈ shows details.status (s.observe window).1 ++
              pauses settings (s.observe window).2 details.status, x.question.displays = true :=
            List.forall_mem_append.mpr ⟨shows_display _ _, pauses_display _ _⟩
          obtain ⟨log, one, fresh, moved, _⟩ := poll_read here displays engine opened cursor behind
          obtain ⟨x, inside, held⟩ := polled_log (one ▸ List.mem_singleton_self log)
          -- The next poll starts from the history this one has read.
          have passed : ∀ y ∈ second, log.length ≤ y.log.length := by
            intro y member
            rw [← held]
            exact (across x inside y member).length_le
          obtain ⟨reported, kept⟩ :=
            ih there later_engine ((rested_cursor _).trans moved) passed
          have shown : Trace.shown (⟨.describe grant execution, .ok details⟩ ::
              ⟨.history grant execution settings.historyWindow, .ok window⟩ ::
              (shows details.status (s.observe window).1 ++
                pauses settings (s.observe window).2 details.status)) =
              (s.observe window).1 := by
            have parts := Trace.shown_append (shows details.status (s.observe window).1)
              (pauses settings (s.observe window).2 details.status)
            rwa [shows_shown, pauses_shown, List.append_nil] at parts
          rw [Trace.shown_append, shown, polled_append, one, List.singleton_append, reports_append,
            ← fresh, reported]
          refine ⟨rfl, fun completed ended => ?_⟩
          obtain ⟨traced, last, read, y, member, ends⟩ := kept completed ended
          rw [rested_trace, observe_trace, reported] at traced
          refine ⟨by rw [traced, List.append_assoc], last, ?_, y, List.mem_append_right _ member,
            ends⟩
          rw [← List.singleton_append, List.getLast?_append, read]
          rfl

/-- The trace of a watch is what was shown, poll by poll the new events as far as the window holds
them, in the order of their ids. It is the whole history as last read exactly when no poll finds
more than a window of new events, and it ends with the last event of a history that was complete
when the execution was seen to have ended. -/
theorem progress_report {polls : Nat} {run : List Moment} {completed : CompletedExecution}
    (ran : (awaitCompletion settings grant execution polls).Ran (run.map Moment.exchange)
      (some (.ok completed)))
    (engine : AppendOnly run) (opened : 1 ≤ settings.historyWindow) :
    completed.trace = Trace.shown (run.map Moment.exchange) ∧
    completed.trace = reports settings.historyWindow 0 (polled run) ∧
    completed.trace.Pairwise (fun first second => first.id < second.id) ∧
    (∃ log, (polled run).getLast? = some log ∧
      ((∀ event ∈ log, event ∈ completed.trace) ↔
        Unbroken settings.historyWindow 0 (polled run))) ∧
    ∀ whole, (∀ x ∈ run, x.log <+: whole) → (∀ x ∈ run, x.SawEnd → x.log = whole) →
      completed.trace.getLast? = whole.getLast? := by
  have fresh : ({} : State).cursor = .after 0 := rfl
  obtain ⟨shown, kept⟩ := watched_reports (watch_ran ran) rfl engine opened fresh
    fun _ _ => Nat.zero_le _
  obtain ⟨traced, log, last, x, member, ended, grown⟩ := kept completed rfl
  rw [List.nil_append] at traced
  have grows : ([] :: polled run).Pairwise (· <+: ·) :=
    List.pairwise_cons.mpr ⟨fun _ _ => List.nil_prefix, polled_grows engine⟩
  have ends : ([] :: polled run).getLast? = some log := by
    rw [List.getLast?_cons, last]
    rfl
  have numbers := polled_numbered engine
  have numbered := numbers log (List.mem_of_getLast? last)
  have increasing := numbered_increasing numbered
  have sub : completed.trace.Sublist log := by
    rw [traced, shown]
    exact reports_sublist numbers grows ends
  refine ⟨traced, traced.trans shown, increasing.sublist sub, ⟨log, last, ?_⟩, ?_⟩
  · have whole : reports settings.historyWindow 0 (polled run) = log ↔ _ :=
      reports_complete_iff numbers grows ends
    refine Iff.trans ?_ whole
    constructor
    · intro all
      have distinct : log.Nodup := increasing.imp fun less same => by simp [same] at less
      have same := sub.eq_of_length_le (distinct.length_le_of_subset all)
      exact shown.symm.trans (traced.symm.trans same)
    · intro same event inside
      rw [traced, shown]
      exact same ▸ inside
  · intro whole within complete
    have newest := reports_newest opened numbers grows ends
    have reached : log = whole := by
      obtain ⟨y, inside, held⟩ := polled_log (List.mem_of_getLast? last)
      refine List.IsPrefix.eq_of_length_le (held ▸ within y inside) ?_
      rw [← complete x member ended]
      exact grown.length_le
    rw [traced, shown, ← reached]
    exact newest

end Watch

namespace Sample

def settings : MonitorSettings := ⟨1000, 2, 12⟩

def execution : ExecutionArn := ⟨"arn:run"⟩

def event (id : Int) : HistoryEvent := ⟨id, "TaskStateEntered", .epoch, none⟩

def described (status : ExecutionStatus) : ExecutionDescription :=
  ⟨execution, status, .epoch, none, none, none, none⟩

def history : List HistoryEvent := [event 1, event 2, event 3, event 4]

/-- Three events are appended during the pause; the window holds the last two. -/
def run : List Moment := [
  ⟨[event 1], ⟨.describe Sample.grant execution, .ok (described .running)⟩⟩,
  ⟨[event 1], ⟨.history Sample.grant execution 2, .ok [event 1]⟩⟩,
  ⟨[event 1], ⟨.showEvent .running (event 1), ()⟩⟩,
  ⟨[event 1], ⟨.sleep 1000, ()⟩⟩,
  ⟨history, ⟨.describe Sample.grant execution, .ok (described .succeeded)⟩⟩,
  ⟨history, ⟨.history Sample.grant execution 2, .ok [event 3, event 4]⟩⟩,
  ⟨history, ⟨.showEvent .succeeded (event 3), ()⟩⟩,
  ⟨history, ⟨.showEvent .succeeded (event 4), ()⟩⟩]

theorem appendOnly : AppendOnly run where
  grows := by decide
  numbered := by simp [run, history, event, NumberedFrom]
  windowed := by
    intro x member grant execution limit window same
    simp only [run, List.mem_cons, List.not_mem_nil, or_false] at member
    rcases member with rfl | rfl | rfl | rfl | rfl | rfl | rfl | rfl <;> cases same <;> rfl

end Sample

theorem sample_progress_report :
    ∃ completed,
      (awaitCompletion Sample.settings Sample.grant Sample.execution 2).Ran
        (Sample.run.map Moment.exchange) (some (.ok completed)) ∧
      completed.trace = [Sample.event 1, Sample.event 3, Sample.event 4] ∧
      ¬ Unbroken 2 0 (polled Sample.run) ∧
      completed.trace.getLast? = Sample.history.getLast? := by
  have ran : (awaitCompletion Sample.settings Sample.grant Sample.execution 2).Ran
      (Sample.run.map Moment.exchange) (some (.ok ⟨.succeeded, Sample.described .succeeded,
        [Sample.event 1, Sample.event 3, Sample.event 4]⟩)) :=
    .ask _ (.ask _ (.ask _ (.ask _ (.ask _ (.ask _ (.ask _ (.ask _ (.done _))))))))
  obtain ⟨_, _, _, ⟨log, last, complete⟩, final⟩ :=
    progress_report ran Sample.appendOnly (by decide)
  refine ⟨_, ran, rfl, ?_, final Sample.history (by decide) ?_⟩
  · intro unbroken
    obtain rfl : Sample.history = log := Option.some.inj last
    have shown := complete.mpr unbroken (Sample.event 2) (by decide)
    exact absurd shown (by decide)
  · intro x member ended
    obtain ⟨_, _, details, same, terminal⟩ := ended
    simp only [Sample.run, List.mem_cons, List.not_mem_nil, or_false] at member
    rcases member with rfl | rfl | rfl | rfl | rfl | rfl | rfl | rfl <;> cases same
    · cases terminal
    · rfl

end Monitor

end Rollout
