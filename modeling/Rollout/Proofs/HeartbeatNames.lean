import Rollout.Proofs.CursorBounds
import Rollout.Proofs.ProgressReport

/-!
Which event a heartbeat speaks of. Its id is that of the cursor and its type is
kept beside the cursor, so the two come from different windows: the id from the
event shown last, the type from the window read last. A window that is behind
what has been shown sets them apart.
-/

namespace Rollout

open Dialogue

/-- The window of a history call that was answered. -/
def Exchange.window? (x : Exchange Call Call.Answer) : Option (List HistoryEvent) :=
  match x with
  | ⟨.history _ _ _, .ok window⟩ => some window
  | _ => none

namespace Trace

def windows (calls : Trace) : List (List HistoryEvent) := calls.filterMap Exchange.window?

/-- The event handed to the observer last. -/
def lastShown (calls : Trace) : Option HistoryEvent := calls.shown.getLast?

/-- The newest event of the last window that held any. -/
def lastRead (calls : Trace) : Option HistoryEvent :=
  (calls.windows.filterMap List.getLast?).getLast?

theorem lastShown_append (first second : Trace) :
    lastShown (first ++ second) = second.lastShown.or first.lastShown := by
  rw [lastShown, shown_append, List.getLast?_append]
  rfl

theorem lastRead_append (first second : Trace) :
    lastRead (first ++ second) = second.lastRead.or first.lastRead := by
  rw [lastRead, windows, List.filterMap_append, List.filterMap_append, List.getLast?_append]
  rfl

/-- What a heartbeat says, told of the calls before it. -/
def EachBeat (told : Trace → Int → String → Prop) : Trace → Trace → Prop
  | _, [] => True
  | before, x :: rest =>
    (match x.question with
      | .showHeartbeat _ id type _ => told before id type
      | _ => True) ∧ EachBeat told (before ++ [x]) rest

section Beats

variable {told : Trace → Int → String → Prop} {before first second : Trace}

theorem eachBeat_append :
    EachBeat told before (first ++ second) ↔
      EachBeat told before first ∧ EachBeat told (before ++ first) second := by
  induction first generalizing before with
  | nil => simp [EachBeat]
  | cons x rest ih =>
      rw [List.cons_append, EachBeat, EachBeat, ih, List.append_assoc, List.singleton_append,
        and_assoc]

/-- Without heartbeats there is nothing to tell. -/
theorem eachBeat_silent
    (silent : ∀ x ∈ first, ∀ status id type dots, x.question ≠ .showHeartbeat status id type dots) :
    EachBeat told before first := by
  induction first generalizing before with
  | nil => trivial
  | cons x rest ih =>
      obtain ⟨here, others⟩ := List.forall_mem_cons.mp silent
      constructor
      · split
        · next status id type dots same => exact absurd same (here status id type dots)
        · trivial
      · exact ih others

theorem eachBeat_at {status : ExecutionStatus} {id : Int} {type : String} {dots : Nat}
    (all : EachBeat told before
      (first ++ ⟨.showHeartbeat status id type dots, ()⟩ :: second)) :
    told (before ++ first) id type :=
  (eachBeat_append.mp all).2.1

end Beats

end Trace

def idOf (event : Option HistoryEvent) : Int := (event.map HistoryEvent.id).getD 0

def typeOf (event : Option HistoryEvent) : String := (event.map HistoryEvent.type).getD ""

/-- What a watch keeps about the calls it has made. -/
structure Monitor.Keeps (before : Trace) (s : Monitor.State) : Prop where
  id : s.cursor.previous = idOf before.lastShown
  type : s.lastType = typeOf before.lastRead
  behind : ∀ newest, before.lastRead = some newest → newest.id ≤ s.cursor.previous
  unread : before.lastRead = none → before.lastShown = none

namespace Monitor

open Trace (EachBeat eachBeat_append eachBeat_silent eachBeat_at lastShown_append lastRead_append)

/-- What a heartbeat tells is what the watch keeps. -/
def Tells (before : Trace) (id : Int) (type : String) : Prop :=
  id = idOf before.lastShown ∧ type = typeOf before.lastRead ∧
    (∀ newest, before.lastRead = some newest → newest.id ≤ id) ∧
    (before.lastRead = none → before.lastShown = none)

section Steps

variable {settings : MonitorSettings} {grant : Grant} {execution : ExecutionArn}
variable {before : Trace} {s : State}

theorem lastShown_shows (status : ExecutionStatus) (events : List HistoryEvent) :
    Trace.lastShown (shows status events) = events.getLast? := by
  rw [Trace.lastShown, shows_shown]

theorem lastRead_quiet {calls : Trace} (displays : ∀ x ∈ calls, x.question.displays = true) :
    calls.lastRead = none := by
  have unread : calls.windows = [] := by
    apply List.filterMap_eq_nil_iff.mpr
    intro x member
    have display := displays x member
    unfold Exchange.window?
    split
    · cases display
    · rfl
  rw [Trace.lastRead, unread]
  rfl

theorem keeps_start : Keeps [] ({} : State) := by
  constructor
  · rfl
  · rfl
  · intro newest impossible
    cases impossible
  · intro _
    rfl

/-- The calls of a poll up to its last new event. -/
def seen (settings : MonitorSettings) (grant : Grant) (execution : ExecutionArn) (s : State)
    (details : ExecutionDescription) (window : List HistoryEvent) : Trace :=
  ⟨.describe grant execution, .ok details⟩ ::
    ⟨.history grant execution settings.historyWindow, .ok window⟩ ::
    shows details.status (s.observe window).1

theorem lastShown_seen (details : ExecutionDescription) (window : List HistoryEvent) :
    (seen settings grant execution s details window).lastShown =
      (s.observe window).1.getLast? := lastShown_shows ..

theorem lastRead_seen (details : ExecutionDescription) (window : List HistoryEvent) :
    (seen settings grant execution s details window).lastRead = window.getLast? := by
  have quiet := lastRead_quiet (shows_display details.status (s.observe window).1)
  have split : seen settings grant execution s details window =
      [⟨.describe grant execution, .ok details⟩,
        ⟨.history grant execution settings.historyWindow, .ok window⟩] ++
      shows details.status (s.observe window).1 := rfl
  have one : Trace.windows [⟨.describe grant execution, .ok details⟩,
      ⟨.history grant execution settings.historyWindow, .ok window⟩] = [window] := rfl
  rw [split, lastRead_append, quiet, Option.none_or, Trace.lastRead, one, List.filterMap_cons]
  cases window.getLast? <;> rfl

theorem keeps_seen (keeps : Keeps before s) (details : ExecutionDescription)
    (window : List HistoryEvent) :
    Keeps (before ++ seen settings grant execution s details window) (s.observe window).2 := by
  have shown := lastShown_append before (seen settings grant execution s details window)
  have read := lastRead_append before (seen settings grant execution s details window)
  rw [lastShown_seen] at shown
  rw [lastRead_seen] at read
  have fresh : (s.observe window).1 = (s.cursor.takeNew window).1 := rfl
  have moved : (s.observe window).2.cursor = (s.cursor.takeNew window).2 := rfl
  have typed : (s.observe window).2.lastType =
      (window.getLast?.map HistoryEvent.type).getD s.lastType := rfl
  rcases s.cursor.takeNew_newest window with ⟨stale, taken⟩ | ⟨newest, last, ahead, newly, stands⟩
  · -- Nothing is shown and the cursor stays, but the type is that of the window.
    rw [fresh, taken, List.getLast?_nil, Option.none_or] at shown
    constructor
    · rw [moved, taken, shown]
      exact keeps.id
    · rw [typed, read, keeps.type]
      cases window.getLast? <;> rfl
    · rw [moved, taken, read]
      intro newest found
      cases last : window.getLast? with
      | none =>
          rw [last, Option.none_or] at found
          exact keeps.behind newest found
      | some other =>
          rw [last, Option.some_or] at found
          cases found
          exact stale newest last
    · rw [read, shown]
      intro nothing
      exact keeps.unread (Option.or_eq_none_iff.mp nothing).2
  · rw [fresh, newly, Option.some_or] at shown
    rw [last, Option.some_or] at read
    constructor
    · rw [moved, stands, shown]
      rfl
    · rw [typed, last, read]
      rfl
    · rw [moved, stands, read]
      intro other same
      cases same
      exact Int.le_refl _
    · rw [read]
      intro nothing
      cases nothing

/-- What follows in the poll shows no event and reads no window. -/
theorem keeps_paused (keeps : Keeps before s) (status : ExecutionStatus) :
    Keeps (before ++ pauses settings s status) (s.rested settings) := by
  have unshown : (pauses settings s status).lastShown = none := by
    rw [Trace.lastShown, pauses_shown]
    rfl
  have unread : (pauses settings s status).lastRead = none :=
    lastRead_quiet (pauses_display s status)
  constructor
  · rw [rested_cursor, lastShown_append, unshown, Option.none_or]
    exact keeps.id
  · rw [lastRead_append, unread, Option.none_or, ← keeps.type]
    unfold State.rested
    split <;> rfl
  · rw [rested_cursor, lastRead_append, unread, Option.none_or]
    exact keeps.behind
  · rw [lastRead_append, unread, lastShown_append, unshown, Option.none_or, Option.none_or]
    exact keeps.unread

theorem pauses_tell (keeps : Keeps before s) (status : ExecutionStatus) :
    EachBeat Tells before (pauses settings s status) := by
  have asleep : Keeps (before ++ [⟨.sleep settings.pollIntervalMs, ()⟩]) s := by
    have quiet : Trace.lastRead [⟨.sleep settings.pollIntervalMs, ()⟩] = none := rfl
    have unshown : Trace.lastShown [⟨.sleep settings.pollIntervalMs, ()⟩] = none := rfl
    constructor
    · rw [lastShown_append, unshown, Option.none_or]
      exact keeps.id
    · rw [lastRead_append, quiet, Option.none_or]
      exact keeps.type
    · rw [lastRead_append, quiet, Option.none_or]
      exact keeps.behind
    · rw [lastRead_append, quiet, lastShown_append, unshown, Option.none_or, Option.none_or]
      exact keeps.unread
  unfold pauses
  refine ⟨trivial, ?_⟩
  split
  · exact ⟨⟨asleep.id, asleep.type, asleep.behind, asleep.unread⟩, trivial⟩
  · trivial

/-- A poll tells what is kept before it, and leaves what is kept after it. -/
theorem polled_tells {trace : Trace} {result : Except EngineError (CompletedExecution ⊕ State)}
    (keeps : Keeps before s) (poll : Polled settings grant execution s trace result) :
    EachBeat Tells before trace ∧ ∀ next, result = .ok (.inr next) → Keeps (before ++ trace) next := by
  have silent : ∀ (details : ExecutionDescription) (window : List HistoryEvent),
      EachBeat Tells before (seen settings grant execution s details window) := by
    intro details window
    apply eachBeat_silent
    simp [seen, shows]
  cases poll with
  | describeFailed e =>
      constructor
      · exact eachBeat_silent (by simp)
      · intro next impossible
        cases impossible
  | historyFailed details e =>
      constructor
      · exact eachBeat_silent (by simp)
      · intro next impossible
        cases impossible
  | ended details window terminal =>
      constructor
      · exact silent details window
      · intro next impossible
        cases impossible
  | running details window live =>
      have kept : Keeps (before ++ seen settings grant execution s details window) _ :=
        keeps_seen keeps details window
      have split : (⟨.describe grant execution, .ok details⟩ ::
          ⟨.history grant execution settings.historyWindow, .ok window⟩ ::
          (shows details.status (s.observe window).1 ++
            pauses settings (s.observe window).2 details.status) : Trace) =
          seen settings grant execution s details window ++
            pauses settings (s.observe window).2 details.status := rfl
      rw [split]
      constructor
      · exact eachBeat_append.mpr ⟨silent details window, pauses_tell kept details.status⟩
      · rintro next ⟨⟩
        rw [← List.append_assoc]
        exact keeps_paused kept details.status

theorem watched_tells {polls : Nat} {trace : Trace}
    {outcome : Option (Except EngineError CompletedExecution)}
    (keeps : Keeps before s) (watch : Watched settings grant execution polls s trace outcome) :
    EachBeat Tells before trace := by
  induction watch generalizing before with
  | exhausted s => trivial
  | failed poll => exact (polled_tells keeps poll).1
  | ended poll => exact (polled_tells keeps poll).1
  | further poll others ih =>
      obtain ⟨here, onward⟩ := polled_tells keeps poll
      exact eachBeat_append.mpr ⟨here, ih (onward _ rfl)⟩

end Steps

/-- The last window that held any event is not behind what has been shown, and an event of the same
id is of the same type. -/
def Current (before : Trace) : Prop :=
  ∀ newest, before.lastRead = some newest →
    0 < newest.id ∧ idOf before.lastShown ≤ newest.id ∧
    ∀ event, before.lastShown = some event → event.id = newest.id → event.type = newest.type

theorem typeOf_current {before : Trace} {id : Int} {type : String} (tells : Tells before id type)
    (current : Current before) : type = typeOf before.lastShown := by
  obtain ⟨named, typed, behind, unread⟩ := tells
  cases read : before.lastRead with
  | none => rw [typed, read, unread read]
  | some newest =>
      obtain ⟨positive, ahead, same⟩ := current newest read
      have even := behind newest read
      rw [named] at even
      rw [typed, read]
      cases shown : before.lastShown with
      | none =>
          -- Nothing shown yet would put a read event at zero.
          rw [shown, idOf, Option.map_none, Option.getD_none] at even
          omega
      | some event =>
          rw [shown, idOf, Option.map_some, Option.getD_some] at ahead even
          exact (same event shown (by omega)).symm

/-- Whatever the windows, a heartbeat has the id of the event shown last, and the type of the newest
event of the last window that held any. So both are those of the event shown last as long as that
window is not behind it. -/
theorem heartbeat_names {settings : MonitorSettings} {grant : Grant} {execution : ExecutionArn}
    {polls : Nat} {trace before after : Trace} {status : ExecutionStatus} {id : Int}
    {type : String} {dots : Nat} {outcome : Option (Except EngineError CompletedExecution)}
    (ran : (awaitCompletion settings grant execution polls).Ran trace outcome)
    (split : trace = before ++ ⟨.showHeartbeat status id type dots, ()⟩ :: after) :
    id = idOf before.lastShown ∧ type = typeOf before.lastRead ∧
    (Current before → type = typeOf before.lastShown) := by
  have all : EachBeat Tells [] trace := watched_tells keeps_start (watch_ran ran)
  rw [split] at all
  have tells : Tells before id type := eachBeat_at all
  refine ⟨tells.1, tells.2.1, ?_⟩
  intro current
  exact typeOf_current tells current

namespace Sample

def named (id : Int) (type : String) : HistoryEvent := ⟨id, type, .epoch, none⟩

def entered : HistoryEvent := named 1 "TaskStateEntered"

def exited : HistoryEvent := named 2 "TaskStateExited"

/-- A heartbeat after the second poll, which sees this window. -/
def beforeBeat (window : List HistoryEvent) : Trace := [
  ⟨.describe Sample.grant execution, .ok (described .running)⟩,
  ⟨.history Sample.grant execution 30, .ok [entered, exited]⟩,
  ⟨.showEvent .running entered, ()⟩,
  ⟨.showEvent .running exited, ()⟩,
  ⟨.sleep 1000, ()⟩,
  ⟨.describe Sample.grant execution, .ok (described .running)⟩,
  ⟨.history Sample.grant execution 30, .ok window⟩,
  ⟨.sleep 1000, ()⟩]

def afterBeat : Trace := [
  ⟨.describe Sample.grant execution, .ok (described .succeeded)⟩,
  ⟨.history Sample.grant execution 30, .ok []⟩]

end Sample

theorem sample_heartbeat_names :
    (awaitCompletion ⟨1000, 30, 2⟩ Sample.grant Sample.execution 3).Ran
      (Sample.beforeBeat [Sample.exited] ++
        ⟨.showHeartbeat .running 2 "TaskStateExited" 1, ()⟩ :: Sample.afterBeat)
      (some (.ok ⟨.succeeded, Sample.described .succeeded, [Sample.entered, Sample.exited]⟩)) ∧
    "TaskStateExited" = typeOf (Sample.beforeBeat [Sample.exited]).lastShown := by
  have ran : (awaitCompletion ⟨1000, 30, 2⟩ Sample.grant Sample.execution 3).Ran
      (Sample.beforeBeat [Sample.exited] ++
        ⟨.showHeartbeat .running 2 "TaskStateExited" 1, ()⟩ :: Sample.afterBeat)
      (some (.ok ⟨.succeeded, Sample.described .succeeded, [Sample.entered, Sample.exited]⟩)) :=
    .ask _ (.ask _ (.ask _ (.ask _ (.ask _ (.ask _ (.ask _ (.ask _ (.ask _ (.ask _ (.ask _
      (.done _)))))))))))
  obtain ⟨_, _, belongs⟩ := heartbeat_names ran rfl
  refine ⟨ran, belongs ?_⟩
  rintro newest ⟨⟩
  refine ⟨by decide, by decide, ?_⟩
  rintro event ⟨⟩ _
  rfl

/-- A window of rising positive ids that is behind what has been shown: the heartbeat has the id of
one event and the type of another. -/
theorem stale_window_mixes_events :
    (awaitCompletion ⟨1000, 30, 2⟩ Sample.grant Sample.execution 3).Ran
      (Sample.beforeBeat [Sample.entered] ++
        ⟨.showHeartbeat .running 2 "TaskStateEntered" 1, ()⟩ :: Sample.afterBeat)
      (some (.ok ⟨.succeeded, Sample.described .succeeded, [Sample.entered, Sample.exited]⟩)) ∧
    (∀ window ∈ (Sample.beforeBeat [Sample.entered] ++ Sample.afterBeat).windows,
      HistoryCursor.Rising window ∧ ∀ event ∈ window, 0 < event.id) ∧
    (Sample.beforeBeat [Sample.entered]).lastShown = some Sample.exited ∧
    "TaskStateEntered" ≠ Sample.exited.type := by
  refine ⟨?_, by decide, rfl, by decide⟩
  exact .ask _ (.ask _ (.ask _ (.ask _ (.ask _ (.ask _ (.ask _ (.ask _ (.ask _ (.ask _ (.ask _
    (.done _)))))))))))

end Monitor

end Rollout
