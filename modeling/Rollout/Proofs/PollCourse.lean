import Rollout.Config.Manifest
import Rollout.Proofs.CursorBounds
import Rollout.Proofs.ProgressReport

/-!
The course of a watch, said of the engine's answers alone: the polls that found
the execution running, and how the poll after them ended the watch. What each
poll shows follows from the windows up to it; a heartbeat has a dot more than
there were heartbeats since something new was seen.
-/

namespace Rollout

open HistoryCursor (Taking takings reached)

def Call.describes : Call → Bool
  | .describe _ _ => true
  | _ => false

def Call.readsHistory : Call → Bool
  | .history _ _ _ => true
  | _ => false

def Call.sleeps : Call → Bool
  | .sleep _ => true
  | _ => false

/-- How many of the calls are of a kind. -/
def Trace.count (kind : Call → Bool) (calls : Trace) : Nat := calls.countP fun x => kind x.question

namespace Monitor

open Dialogue

/-- What the engine answered a poll. -/
structure Look where
  details : ExecutionDescription
  window : List HistoryEvent

/-- The last poll: it saw that the execution had ended, or one of its calls failed. -/
inductive Close where
  | ended (look : Look) (settled : look.details.status ≠ .running)
  | describeFailed (e : EngineError)
  | historyFailed (details : ExecutionDescription) (e : EngineError)

/-- The answers of all polls. Only the last of them does not find the execution running. -/
structure Course where
  looks : List Look
  running : ∀ look ∈ looks, look.details.status = .running
  close : Close

def cursorAfter (looks : List Look) : HistoryCursor := reached {} (looks.map Look.window)

/-- What the polls found new, poll by poll. -/
def news (looks : List Look) : List (List HistoryEvent) :=
  (takings {} (looks.map Look.window)).map Taking.fresh

/-- The type of the newest event of the last window that held any. -/
def typeAfter (looks : List Look) : String :=
  (((looks.map Look.window).filterMap List.getLast?).getLast?.map HistoryEvent.type).getD ""

/-- The heartbeats among so many polls after which no poll has found anything new. Polls count from
one, and every so many of them there is a heartbeat. -/
def beatsSince (every : Nat) (news : List (List HistoryEvent)) (polls : Nat) : Nat :=
  ((List.range' 1 polls).filter fun poll =>
    every ∣ poll ∧ (news.drop poll).all List.isEmpty).length

section Calls

variable (settings : MonitorSettings) (grant : Grant) (execution : ExecutionArn)

/-- The two engine calls of a poll, and its new events one by one. -/
def lookCalls (earlier : List Look) (look : Look) : Trace :=
  ⟨.describe grant execution, .ok look.details⟩ ::
    ⟨.history grant execution settings.historyWindow, .ok look.window⟩ ::
    shows look.details.status ((cursorAfter earlier).takeNew look.window).1

/-- The heartbeat after the last of these polls, if one is due. -/
def beatCalls (looks : List Look) (status : ExecutionStatus) : Trace :=
  if settings.heartbeatEvery ∣ looks.length then
    [⟨.showHeartbeat status (cursorAfter looks).previous (typeAfter looks)
      (1 + beatsSince settings.heartbeatEvery (news looks) (looks.length - 1)), ()⟩]
  else []

/-- The calls of polls that find the execution running, after `earlier` ones. -/
def runningCalls : List Look → List Look → Trace
  | _, [] => []
  | earlier, look :: rest =>
    lookCalls settings grant execution earlier look ++
      ⟨.sleep settings.pollIntervalMs, ()⟩ ::
      (beatCalls settings (earlier ++ [look]) look.details.status ++
        runningCalls (earlier ++ [look]) rest)

def Close.calls (earlier : List Look) : Close → Trace
  | .ended look _ => lookCalls settings grant execution earlier look
  | .describeFailed e => [⟨.describe grant execution, .error e⟩]
  | .historyFailed details e =>
    [⟨.describe grant execution, .ok details⟩,
      ⟨.history grant execution settings.historyWindow, .error e⟩]

def Course.calls (course : Course) : Trace :=
  runningCalls settings grant execution [] course.looks ++
    course.close.calls settings grant execution course.looks

end Calls

def Close.result (earlier : List Look) : Close → Except EngineError CompletedExecution
  | .ended look _ =>
    .ok ⟨look.details.status, look.details, (news (earlier ++ [look])).flatten⟩
  | .describeFailed e => .error e
  | .historyFailed _ e => .error e

def Course.result (course : Course) : Except EngineError CompletedExecution :=
  course.close.result course.looks

/-- All polls, the last included. -/
def Course.polls (course : Course) : Nat := course.looks.length + 1

/-- The polls that came to ask for the history. -/
def Course.reads (course : Course) : Nat :=
  match course.close with
  | .describeFailed _ => course.looks.length
  | _ => course.polls

section Snoc

variable (looks : List Look) (look : Look)

theorem takings_snoc (c : HistoryCursor) (windows : List (List HistoryEvent))
    (window : List HistoryEvent) :
    (takings c (windows ++ [window])).map Taking.fresh =
      (takings c windows).map Taking.fresh ++ [((reached c windows).takeNew window).1] := by
  induction windows generalizing c with
  | nil => rfl
  | cons first rest ih => exact congrArg ((c.takeNew first).1 :: ·) (ih (c.takeNew first).2)

theorem news_snoc :
    news (looks ++ [look]) = news looks ++ [((cursorAfter looks).takeNew look.window).1] := by
  rw [news, List.map_append]
  exact takings_snoc {} (looks.map Look.window) look.window

theorem length_takings (c : HistoryCursor) (windows : List (List HistoryEvent)) :
    (takings c windows).length = windows.length := by
  induction windows generalizing c with
  | nil => rfl
  | cons first rest ih => exact congrArg (· + 1) (ih (c.takeNew first).2)

theorem length_news : (news looks).length = looks.length := by
  rw [news, List.length_map, length_takings, List.length_map]

theorem cursorAfter_snoc :
    cursorAfter (looks ++ [look]) = ((cursorAfter looks).takeNew look.window).2 := by
  simp [cursorAfter, reached]

theorem typeAfter_snoc :
    typeAfter (looks ++ [look]) =
      (look.window.getLast?.map HistoryEvent.type).getD (typeAfter looks) := by
  cases last : look.window.getLast? with
  | none => simp [typeAfter, last]
  | some newest => simp [typeAfter, last]

/-- Something new ends the row of heartbeats, and nothing new leaves it as it is. -/
theorem beatsSince_snoc (every : Nat) (earlier : List (List HistoryEvent))
    (fresh : List HistoryEvent) :
    beatsSince every (earlier ++ [fresh]) earlier.length =
      if fresh.isEmpty then beatsSince every earlier earlier.length else 0 := by
  have later : ∀ poll ∈ List.range' 1 earlier.length,
      ((earlier ++ [fresh]).drop poll).all List.isEmpty =
        ((earlier.drop poll).all List.isEmpty && fresh.isEmpty) := by
    intro poll member
    have within : poll ≤ earlier.length := by
      have bounds := List.mem_range'_1.mp member
      omega
    rw [List.drop_append_of_le_length within]
    simp
  unfold beatsSince
  by_cases empty : fresh.isEmpty = true
  · -- The same polls have nothing new after them as before.
    rw [if_pos empty]
    congr 1
    apply List.filter_congr
    intro poll member
    rw [later poll member, empty, Bool.and_true]
  · rw [if_neg empty, List.length_eq_zero_iff, List.filter_eq_nil_iff]
    intro poll member
    rw [later poll member]
    simp [empty]

/-- A poll with a heartbeat adds it to the row. -/
theorem beatsSince_succ (every : Nat) (news : List (List HistoryEvent)) {polls : Nat}
    (all : news.length = polls + 1) :
    beatsSince every news (polls + 1) =
      beatsSince every news polls + if every ∣ polls + 1 then 1 else 0 := by
  have done : news.drop (polls + 1) = [] := by rw [← all, List.drop_length]
  unfold beatsSince
  rw [List.range'_1_concat, List.filter_append, List.length_append, Nat.add_comm 1 polls]
  congr 1
  by_cases due : every ∣ polls + 1
  · simp [due, done]
  · simp [due]

end Snoc

/-- The state of a watch whose polls so far were these. -/
structure After (every : Nat) (looks : List Look) (s : State) : Prop where
  cursor : s.cursor = cursorAfter looks
  trace : s.trace = (news looks).flatten
  polls : s.polls.toNat = looks.length
  dots : s.dots = beatsSince every (news looks) looks.length
  lastType : s.lastType = typeAfter looks

section Steps

variable {settings : MonitorSettings} {grant : Grant} {execution : ExecutionArn}
variable {earlier : List Look} {s : State}

theorem after_start (every : Nat) : After every [] ({} : State) := by
  constructor <;> rfl

theorem observe_fresh (after : After settings.heartbeatEvery earlier s) (look : Look) :
    (s.observe look.window).1 = ((cursorAfter earlier).takeNew look.window).1 := by
  simp [State.observe, after.cursor]

theorem observe_trace_after (after : After settings.heartbeatEvery earlier s) (look : Look) :
    (s.observe look.window).2.trace = (news (earlier ++ [look])).flatten := by
  rw [news_snoc]
  simp [State.observe, after.cursor, after.trace]

theorem observe_polls (after : After settings.heartbeatEvery earlier s) (look : Look)
    (few : earlier.length + 1 < UInt32.size) :
    (s.observe look.window).2.polls.toNat = earlier.length + 1 := by
  have counted : (s.polls + 1).toNat = (s.polls.toNat + 1) % UInt32.size := UInt32.toNat_add s.polls 1
  rw [after.polls, Nat.mod_eq_of_lt few] at counted
  exact counted

theorem observe_dots (after : After settings.heartbeatEvery earlier s) (look : Look) :
    (s.observe look.window).2.dots =
      beatsSince settings.heartbeatEvery (news (earlier ++ [look])) earlier.length := by
  have row := beatsSince_snoc settings.heartbeatEvery (news earlier)
    ((cursorAfter earlier).takeNew look.window).1
  rw [length_news] at row
  rw [news_snoc, row]
  simp [State.observe, after.cursor, after.dots]

theorem heartbeatDue_iff {polls : Nat} (counted : s.polls.toNat = polls) :
    s.heartbeatDue settings = true ↔ settings.heartbeatEvery ∣ polls := by
  rw [State.heartbeatDue, counted, beq_iff_eq]
  exact (Nat.dvd_iff_mod_eq_zero ..).symm

theorem rested_polls (s : State) : (s.rested settings).polls = s.polls := by
  unfold State.rested
  split <;> rfl

theorem rested_lastType (s : State) : (s.rested settings).lastType = s.lastType := by
  unfold State.rested
  split <;> rfl

theorem rested_dots {s : State} {polls : Nat} (counted : s.polls.toNat = polls) :
    (s.rested settings).dots =
      s.dots + if settings.heartbeatEvery ∣ polls then 1 else 0 := by
  by_cases due : settings.heartbeatEvery ∣ polls
  · simp [State.rested, (heartbeatDue_iff counted).mpr due, due]
  · simp [State.rested, mt (heartbeatDue_iff counted).mp due, due]

/-- A poll that finds the execution running leads from the state after the polls before it to the
state after it. -/
theorem after_look (after : After settings.heartbeatEvery earlier s) (look : Look)
    (few : earlier.length + 1 < UInt32.size) :
    After settings.heartbeatEvery (earlier ++ [look])
      ((s.observe look.window).2.rested settings) := by
  have counted := observe_polls after look few
  have size : (earlier ++ [look]).length = earlier.length + 1 := List.length_append
  constructor
  · rw [rested_cursor, cursorAfter_snoc]
    simp [State.observe, after.cursor]
  · rw [rested_trace, observe_trace_after after look]
  · rw [rested_polls, counted, size]
  · rw [rested_dots counted, observe_dots after look, size,
      beatsSince_succ _ _ ((length_news _).trans size)]
  · rw [rested_lastType, typeAfter_snoc]
    simp [State.observe, after.lastType]

/-- What a poll shows and the pause after it, told of the polls instead of the state. -/
theorem pauses_after (after : After settings.heartbeatEvery earlier s) (look : Look)
    (few : earlier.length + 1 < UInt32.size) (status : ExecutionStatus) :
    pauses settings (s.observe look.window).2 status =
      ⟨.sleep settings.pollIntervalMs, ()⟩ :: beatCalls settings (earlier ++ [look]) status := by
  have counted := observe_polls after look few
  have size : (earlier ++ [look]).length = earlier.length + 1 := List.length_append
  have cursor : (s.observe look.window).2.cursor = cursorAfter (earlier ++ [look]) := by
    rw [cursorAfter_snoc]
    simp [State.observe, after.cursor]
  have lastType : (s.observe look.window).2.lastType = typeAfter (earlier ++ [look]) := by
    rw [typeAfter_snoc]
    simp [State.observe, after.lastType]
  unfold pauses beatCalls
  by_cases due : settings.heartbeatEvery ∣ earlier.length + 1
  · rw [if_pos ((heartbeatDue_iff counted).mpr due), size, if_pos due, cursor, lastType,
      observe_dots after look, Nat.add_sub_cancel, Nat.add_comm]
  · rw [if_neg (mt (heartbeatDue_iff counted).mp due), size, if_neg due]

theorem polled_running (after : After settings.heartbeatEvery earlier s) (look : Look)
    (few : earlier.length + 1 < UInt32.size) :
    ⟨.describe grant execution, .ok look.details⟩ ::
        ⟨.history grant execution settings.historyWindow, .ok look.window⟩ ::
        (shows look.details.status (s.observe look.window).1 ++
          pauses settings (s.observe look.window).2 look.details.status) =
      lookCalls settings grant execution earlier look ++
        ⟨.sleep settings.pollIntervalMs, ()⟩ ::
        beatCalls settings (earlier ++ [look]) look.details.status := by
  rw [pauses_after after look few, observe_fresh after look]
  rfl

end Steps

section Counts

variable {settings : MonitorSettings} {grant : Grant} {execution : ExecutionArn}

/-- A kind of calls that shows nothing to the observer. -/
def Unseen (kind : Call → Bool) : Prop :=
  (∀ status event, kind (.showEvent status event) = false) ∧
    ∀ status id type dots, kind (.showHeartbeat status id type dots) = false

theorem count_append (kind : Call → Bool) (first second : Trace) :
    Trace.count kind (first ++ second) = first.count kind + second.count kind :=
  List.countP_append

theorem count_cons (kind : Call → Bool) (x : Exchange Call Call.Answer) (rest : Trace) :
    Trace.count kind (x :: rest) = Trace.count kind rest + if kind x.question then 1 else 0 :=
  List.countP_cons

theorem count_shows {kind : Call → Bool} (unseen : Unseen kind) (status : ExecutionStatus)
    (events : List HistoryEvent) : Trace.count kind (shows status events) = 0 := by
  apply List.countP_eq_zero.mpr
  intro x member
  obtain ⟨event, _, rfl⟩ := List.mem_map.mp member
  simp [unseen.1]

theorem count_beatCalls {kind : Call → Bool} (unseen : Unseen kind) (looks : List Look)
    (status : ExecutionStatus) : Trace.count kind (beatCalls settings looks status) = 0 := by
  unfold beatCalls
  split
  · simp [Trace.count, unseen.2]
  · rfl

/-- Such calls are made once by each poll that finds the execution running, or not at all. -/
theorem count_runningCalls {kind : Call → Bool} (unseen : Unseen kind) {once : Nat}
    (calls : (if kind (.describe grant execution) then 1 else 0) +
      (if kind (.history grant execution settings.historyWindow) then 1 else 0) +
      (if kind (.sleep settings.pollIntervalMs) then 1 else 0) = once)
    (earlier looks : List Look) :
    Trace.count kind (runningCalls settings grant execution earlier looks) =
      looks.length * once := by
  induction looks generalizing earlier with
  | nil => simp [runningCalls, Trace.count]
  | cons look rest ih =>
      rw [runningCalls, lookCalls, count_append, count_cons, count_cons, count_shows unseen,
        count_cons, count_append, count_beatCalls unseen, ih, List.length_cons, Nat.succ_mul]
      dsimp only
      omega

theorem course_counts (course : Course) :
    (course.calls settings grant execution).count Call.describes = course.polls ∧
    (course.calls settings grant execution).count Call.readsHistory = course.reads ∧
    (course.calls settings grant execution).count Call.sleeps = course.looks.length := by
  have described : Unseen Call.describes := ⟨fun _ _ => rfl, fun _ _ _ _ => rfl⟩
  have read : Unseen Call.readsHistory := ⟨fun _ _ => rfl, fun _ _ _ _ => rfl⟩
  have slept : Unseen Call.sleeps := ⟨fun _ _ => rfl, fun _ _ _ _ => rfl⟩
  rw [Course.calls, count_append, count_append, count_append, count_runningCalls described rfl,
    count_runningCalls read rfl, count_runningCalls slept rfl, Course.polls, Course.reads,
    Course.polls]
  cases course.close with
  | ended look settled =>
      simp [Close.calls, lookCalls, count_cons, count_shows described, count_shows read,
        count_shows slept, Call.describes, Call.readsHistory, Call.sleeps]
  | describeFailed e =>
      simp [Close.calls, Trace.count, Call.describes, Call.readsHistory, Call.sleeps]
  | historyFailed details e =>
      simp [Close.calls, Trace.count, Call.describes, Call.readsHistory, Call.sleeps]

end Counts

section Runs

variable {settings : MonitorSettings} {grant : Grant} {execution : ExecutionArn}
variable {earlier : List Look} {s : State} {polls : Nat} {trace : Trace}
variable {result : Except EngineError CompletedExecution}

/-- The calls of a watch that returns are those of some answers, after `earlier` polls. -/
def Follows (settings : MonitorSettings) (grant : Grant) (execution : ExecutionArn)
    (earlier : List Look) (polls : Nat) (trace : Trace)
    (result : Except EngineError CompletedExecution) : Prop :=
  ∃ (looks : List Look) (close : Close),
    (∀ look ∈ looks, look.details.status = .running) ∧ looks.length < polls ∧
      trace = runningCalls settings grant execution earlier looks ++
        close.calls settings grant execution (earlier ++ looks) ∧
      result = close.result (earlier ++ looks)

theorem failed_follows {e : EngineError}
    (poll : Polled settings grant execution s trace (.error e)) :
    Follows settings grant execution earlier (polls + 1) trace (.error e) := by
  cases poll with
  | describeFailed e => exact ⟨[], .describeFailed e, by simp, by simp, rfl, rfl⟩
  | historyFailed details e => exact ⟨[], .historyFailed details e, by simp, by simp, rfl, rfl⟩

theorem ended_follows {completed : CompletedExecution}
    (poll : Polled settings grant execution s trace (.ok (.inl completed)))
    (after : After settings.heartbeatEvery earlier s) :
    Follows settings grant execution earlier (polls + 1) trace (.ok completed) := by
  cases poll with
  | ended details window terminal =>
      have settled : details.status ≠ .running := by
        simpa [ExecutionStatus.isTerminal] using terminal
      refine ⟨[], .ended ⟨details, window⟩ settled, by simp, by simp, ?_, ?_⟩
      · rw [observe_fresh after ⟨details, window⟩]
        simp [runningCalls, Close.calls, lookCalls]
      · rw [observe_trace_after after ⟨details, window⟩]
        simp [Close.result]

/-- From a state on, a watch that returns goes the way of some answers. -/
theorem watched_follows {outcome : Option (Except EngineError CompletedExecution)}
    (watch : Watched settings grant execution polls s trace outcome)
    (returned : outcome = some result) (after : After settings.heartbeatEvery earlier s)
    (few : earlier.length + trace.count Call.describes < UInt32.size) :
    Follows settings grant execution earlier polls trace result := by
  induction watch generalizing earlier with
  | exhausted s => cases returned
  | failed poll =>
      cases returned
      exact failed_follows poll
  | ended poll =>
      cases returned
      exact ended_follows poll after
  | @further polls s next trace rest outcome poll others ih =>
      cases poll with
      | running details window live =>
          have status : details.status = .running := by
            simpa [ExecutionStatus.isTerminal] using live
          rw [count_append] at few
          have asked : 1 ≤ Trace.count Call.describes (⟨.describe grant execution, .ok details⟩ ::
              ⟨.history grant execution settings.historyWindow, .ok window⟩ ::
              (shows details.status (s.observe window).1 ++
                pauses settings (s.observe window).2 details.status)) :=
            List.countP_pos_iff.mpr ⟨_, List.mem_cons_self, rfl⟩
          -- Every poll asks for the description, so the counter has not come around.
          have here : earlier.length + 1 < UInt32.size := by omega
          obtain ⟨looks, close, running, within, calls, ended⟩ :=
            ih returned (after_look after ⟨details, window⟩ here)
              (by rw [List.length_append, List.length_singleton]; omega)
          refine ⟨⟨details, window⟩ :: looks, close, ?_, by simpa using within, ?_, ?_⟩
          · exact List.forall_mem_cons.mpr ⟨status, running⟩
          · rw [polled_running after ⟨details, window⟩ here, calls, runningCalls]
            simp
          · rw [ended]
            simp

/-- And every row of answers is met by the watch that goes its way. -/
theorem follows_watched (after : After settings.heartbeatEvery earlier s) {looks : List Look}
    (running : ∀ look ∈ looks, look.details.status = .running) (close : Close)
    (few : earlier.length + looks.length < UInt32.size) (within : looks.length < polls) :
    Watched settings grant execution polls s
      (runningCalls settings grant execution earlier looks ++
        close.calls settings grant execution (earlier ++ looks))
      (some (close.result (earlier ++ looks))) := by
  induction looks generalizing earlier s polls with
  | nil =>
      obtain ⟨polls, rfl⟩ : ∃ n, polls = n + 1 := ⟨polls - 1, by simp at within; omega⟩
      simp only [runningCalls, List.nil_append, List.append_nil]
      cases close with
      | ended look settled =>
          have terminal : look.details.status.isTerminal = true := by
            simpa [ExecutionStatus.isTerminal] using settled
          have ended : Polled settings grant execution s _ _ :=
            .ended look.details look.window terminal
          rw [observe_fresh after look, observe_trace_after after look] at ended
          exact .ended ended
      | describeFailed e => exact .failed (.describeFailed e)
      | historyFailed details e => exact .failed (.historyFailed details e)
  | cons look rest ih =>
      obtain ⟨status, others⟩ := List.forall_mem_cons.mp running
      rw [List.length_cons] at few within
      obtain ⟨polls, rfl⟩ : ∃ n, polls = n + 1 := ⟨polls - 1, by omega⟩
      have here : earlier.length + 1 < UInt32.size := by omega
      have live : look.details.status.isTerminal = false := by
        rw [status]
        rfl
      have poll : Polled settings grant execution s _ _ :=
        .running look.details look.window live
      rw [polled_running after look here] at poll
      have onward : Watched settings grant execution polls _ _ _ :=
        ih (after_look after look here) others
          (by rw [List.length_append, List.length_singleton]; omega) (by omega)
      have whole := Watched.further poll onward
      simpa [runningCalls] using whole

/-- A watch of fewer polls than the counter holds returns exactly along the answers of the engine:
it asks for the description and then for the configured window in each poll, shows the new events
under the poll's status, and sleeps after a poll that found the execution running, with a heartbeat
after every so many polls. The first other status, or the first failed call, ends it. -/
theorem watch_course (config : MonitorConfig)
    (few : trace.count Call.describes < UInt32.size) :
    (awaitCompletion config.settings grant execution polls).Ran trace (some result) ↔
      ∃ course : Course, course.polls ≤ polls ∧
        trace = course.calls config.settings grant execution ∧ result = course.result ∧
        trace.count Call.describes = course.polls ∧
        trace.count Call.readsHistory = course.reads ∧
        trace.count Call.sleeps = course.looks.length := by
  have start := after_start config.settings.heartbeatEvery
  constructor
  · intro ran
    obtain ⟨looks, close, running, within, calls, ended⟩ :=
      watched_follows (watch_ran ran) rfl start (by simpa using few)
    let course : Course := ⟨looks, running, close⟩
    have called : trace = course.calls config.settings grant execution := calls
    rw [called]
    exact ⟨course, within, rfl, ended, course_counts course⟩
  · rintro ⟨course, within, rfl, rfl, described, _⟩
    rw [described] at few
    apply ran_watch
    exact follows_watched start course.running course.close (by
      rw [Course.polls] at few
      simp only [List.length_nil]
      omega) within

end Runs

namespace Sample

/-- A window of zero counts as one; every second poll has a heartbeat. -/
def config : MonitorConfig := ⟨1000, 0, 2⟩

def look (status : ExecutionStatus) (ids : List Int) : Look := ⟨described status, ids.map event⟩

/-- The fifth poll finds something new, after two heartbeats without. -/
def course : Course where
  looks := [look .running [1, 2], look .running [1, 2], look .running [], look .running [1, 2],
    look .running [2, 3, 4], look .running [3, 4]]
  running := by decide
  close := .ended (look .succeeded [4, 5]) (by decide)

def trace : Trace := course.calls config.settings Sample.grant execution

/-- What a heartbeat says. -/
def beat? (x : Exchange Call Call.Answer) : Option (Int × Nat) :=
  match x.question with
  | .showHeartbeat _ id _ dots => some (id, dots)
  | _ => none

end Sample

theorem sample_watch_course :
    (awaitCompletion Sample.config.settings Sample.grant Sample.execution 9).Ran Sample.trace
      (some Sample.course.result) ∧
    Sample.trace.count Call.describes = 7 ∧ Sample.trace.count Call.readsHistory = 7 ∧
    Sample.trace.count Call.sleeps = 6 ∧
    Sample.trace.filterMap Sample.beat? = [(2, 1), (2, 2), (4, 1)] ∧
    (∀ x ∈ Sample.trace, x.question.readsHistory = true →
      x.question = .history Sample.grant Sample.execution 1) := by
  have few : Sample.trace.count Call.describes < UInt32.size := by decide
  have ran : (awaitCompletion Sample.config.settings Sample.grant Sample.execution 9).Ran
      Sample.trace (some Sample.course.result) :=
    (watch_course Sample.config few).mpr ⟨Sample.course, by decide, rfl, rfl, rfl, rfl, rfl⟩
  exact ⟨ran, rfl, rfl, rfl, rfl, by decide⟩

end Monitor

end Rollout
