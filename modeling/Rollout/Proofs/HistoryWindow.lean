import Rollout.Execution.Cursor

/-!
The cursor over a history that only grows, read through its trailing window.
Event ids count from one, so a cursor is the length of the history it has seen.
-/

namespace Rollout

/-- Ids count on from `seen`. -/
def NumberedFrom : Nat → List HistoryEvent → Prop
  | _, [] => True
  | seen, event :: rest => event.id = seen + 1 ∧ NumberedFrom (seen + 1) rest

section Numbered

variable {seen : Nat} {log : List HistoryEvent}

theorem numbered_drop (numbered : NumberedFrom seen log) {skipped : Nat}
    (within : skipped ≤ log.length) : NumberedFrom (seen + skipped) (log.drop skipped) := by
  induction log generalizing seen skipped with
  | nil =>
      obtain rfl : skipped = 0 := by simpa using within
      exact numbered
  | cons event rest ih =>
      cases skipped with
      | zero => exact numbered
      | succ skipped =>
          have tail := ih numbered.2 (by simpa using within)
          rw [List.drop_succ_cons]
          rwa [show seen + (skipped + 1) = seen + 1 + skipped by omega]

theorem numbered_append {event : HistoryEvent} (numbered : NumberedFrom seen log)
    (next : event.id = seen + log.length + 1) : NumberedFrom seen (log ++ [event]) := by
  induction log generalizing seen with
  | nil => exact ⟨by simpa using next, trivial⟩
  | cons first rest ih =>
      refine ⟨numbered.1, ih numbered.2 ?_⟩
      rw [next, List.length_cons]
      omega

theorem numbered_newest (numbered : NumberedFrom seen log) {newest : HistoryEvent}
    (last : log.getLast? = some newest) : newest.id = seen + log.length := by
  induction log generalizing seen with
  | nil => cases last
  | cons event rest ih =>
      cases rest with
      | nil =>
          cases last
          exact numbered.1
      | cons other others =>
          have tail := ih numbered.2 (by simpa using last)
          rw [tail, List.length_cons, List.length_cons, List.length_cons]
          omega

theorem numbered_ids (numbered : NumberedFrom seen log) :
    ∀ event ∈ log, (seen : Int) < event.id ∧ event.id ≤ seen + log.length := by
  induction log generalizing seen with
  | nil => simp
  | cons event rest ih =>
      obtain ⟨first, others⟩ := numbered
      intro other member
      rw [List.length_cons]
      rcases List.mem_cons.mp member with rfl | later
      · omega
      · have bounds := ih others other later
        omega

theorem numbered_increasing (numbered : NumberedFrom seen log) :
    log.Pairwise fun first second => first.id < second.id := by
  induction log generalizing seen with
  | nil => exact .nil
  | cons event rest ih =>
      obtain ⟨first, others⟩ := numbered
      refine .cons ?_ (ih others)
      intro other later
      have bounds := numbered_ids others other later
      omega

/-- The events up to an id are those at the front. -/
theorem numbered_takeWhile (numbered : NumberedFrom seen log) (id : Nat) :
    log.takeWhile (fun event => event.id ≤ (id : Int)) = log.take (id - seen) := by
  induction log generalizing seen with
  | nil => simp
  | cons event rest ih =>
      obtain ⟨first, others⟩ := numbered
      by_cases front : seen < id
      · have within : event.id ≤ (id : Int) := by omega
        obtain ⟨more, size⟩ : ∃ more, id - seen = more + 1 := ⟨id - seen - 1, by omega⟩
        rw [List.takeWhile_cons_of_pos (by simpa using within), ih others, size,
          List.take_succ_cons, show id - (seen + 1) = more by omega]
      · have beyond : ¬ event.id ≤ (id : Int) := by omega
        rw [List.takeWhile_cons_of_neg (by simpa using beyond), show id - seen = 0 by omega,
          List.take_zero]

/-- The events above an id are those behind the front. -/
theorem numbered_filter (numbered : NumberedFrom seen log) (lower : Nat) {upper : Int}
    (above : seen + log.length ≤ upper) :
    log.filter (fun event => (lower : Int) < event.id ∧ event.id ≤ upper) =
      log.drop (lower - seen) := by
  induction log generalizing seen with
  | nil => simp
  | cons event rest ih =>
      have bounds := numbered_ids numbered
      obtain ⟨first, others⟩ := numbered
      rw [List.length_cons] at above bounds
      by_cases front : seen < lower
      · obtain ⟨more, size⟩ : ∃ more, lower - seen = more + 1 := ⟨lower - seen - 1, by omega⟩
        have below : ¬ ((lower : Int) < event.id ∧ event.id ≤ upper) := by omega
        rw [List.filter_cons_of_neg (by simpa using below), ih others (by omega), size,
          List.drop_succ_cons, show lower - (seen + 1) = more by omega]
      · rw [show lower - seen = 0 by omega, List.drop_zero, List.filter_eq_self]
        intro other member
        have within := bounds other member
        exact decide_eq_true (by omega)

end Numbered

/-- The cursor after a history of that length has been seen. -/
def HistoryCursor.after (seen : Nat) : HistoryCursor := ⟨seen⟩

section Window

variable {log : List HistoryEvent} {seen window : Nat}

theorem skippedById_window (numbered : NumberedFrom 0 log) :
    (HistoryCursor.after seen).skippedById (log.drop (log.length - window)) =
      min (seen - (log.length - window)) (log.length - (log.length - window)) := by
  have shifted := numbered_drop numbered (Nat.sub_le log.length window)
  rw [HistoryCursor.skippedById, HistoryCursor.after, numbered_takeWhile shifted]
  rw [List.length_take, List.length_drop, Nat.zero_add]

theorem skippedByGap_window (behind : seen ≤ log.length) :
    (HistoryCursor.after seen).skippedByGap (log.drop (log.length - window)) log.length =
      seen - (log.length - window) := by
  simp only [HistoryCursor.skippedByGap, HistoryCursor.after, List.length_drop]
  omega

/-- The new events of a window are those of the history that it holds and the cursor has not
passed. -/
theorem takeNew_window (numbered : NumberedFrom 0 log) (behind : seen ≤ log.length)
    (opened : 1 ≤ window) :
    (HistoryCursor.after seen).takeNew (log.drop (log.length - window)) =
      (log.drop (max seen (log.length - window)), .after log.length) := by
  cases last : (log.drop (log.length - window)).getLast? with
  | none =>
      -- A window that shows nothing belongs to an empty history.
      have empty := List.getLast?_eq_none_iff.mp last
      have size := congrArg List.length empty
      rw [List.length_drop, List.length_nil] at size
      obtain rfl : seen = log.length := by omega
      rw [HistoryCursor.takeNew, last, List.drop_eq_nil_of_le (Nat.le_max_left ..)]
  | some newest =>
      have shifted := numbered_drop numbered (Nat.sub_le log.length window)
      have id := numbered_newest shifted last
      rw [List.length_drop, Nat.zero_add] at id
      have newest_id : newest.id = log.length := by omega
      rw [HistoryCursor.takeNew, last]
      simp only [newest_id]
      by_cases caught : (log.length : Int) ≤ (HistoryCursor.after seen).previous
      · have even : seen = log.length := by
          simp only [HistoryCursor.after] at caught
          omega
        rw [if_pos caught, List.drop_eq_nil_of_le (by omega), even]
      · rw [if_neg caught, skippedByGap_window behind, skippedById_window numbered, List.drop_drop]
        simp only [HistoryCursor.after] at caught
        -- Without gaps in the ids both counts skip the same events.
        have place : log.length - window + max (seen - (log.length - window))
            (min (seen - (log.length - window)) (log.length - (log.length - window))) =
            max seen (log.length - window) := by omega
        rw [place]
        rfl

end Window

/-- What polls of a growing history report through the window: the events with ids beyond those
of the poll before, as far as the window reaches back. -/
def reports (window : Nat) : Nat → List (List HistoryEvent) → List HistoryEvent
  | _, [] => []
  | seen, log :: rest =>
    log.filter (fun event =>
        ((max seen (log.length - window) : Nat) : Int) < event.id ∧
          event.id ≤ (log.length : Int)) ++
      reports window log.length rest

/-- No poll finds more new events than the window holds. -/
def Unbroken (window : Nat) : Nat → List (List HistoryEvent) → Prop
  | _, [] => True
  | seen, log :: rest => log.length - seen ≤ window ∧ Unbroken window log.length rest

section Reports

variable {window : Nat} {base last : List HistoryEvent} {logs : List (List HistoryEvent)}

theorem reports_cons {log : List HistoryEvent} (numbered : NumberedFrom 0 log) (seen : Nat) :
    reports window seen (log :: logs) =
      log.drop (max seen (log.length - window)) ++ reports window log.length logs := by
  rw [reports, numbered_filter numbered _ (by omega), Nat.sub_zero]

theorem drop_split {log : List HistoryEvent} (grown : log <+: last) {seen : Nat}
    (behind : seen ≤ log.length) : last.drop seen = log.drop seen ++ last.drop log.length := by
  obtain ⟨more, rfl⟩ := grown
  rw [List.drop_append_of_le_length behind, List.drop_left]

theorem prefix_last (grows : (base :: logs).Pairwise (· <+: ·))
    (ends : (base :: logs).getLast? = some last) : base <+: last := by
  rcases List.mem_cons.mp (List.mem_of_getLast? ends) with rfl | later
  · exact List.prefix_refl _
  · exact List.rel_of_pairwise_cons grows later

/-- Nothing is reported twice or out of order. -/
theorem reports_sublist (numbered : ∀ log ∈ logs, NumberedFrom 0 log)
    (grows : (base :: logs).Pairwise (· <+: ·)) (ends : (base :: logs).getLast? = some last) :
    (reports window base.length logs).Sublist (last.drop base.length) := by
  induction logs generalizing base with
  | nil =>
      obtain rfl : base = last := by simpa using ends
      exact List.nil_sublist _
  | cons log rest ih =>
      obtain ⟨first, others⟩ := List.forall_mem_cons.mp numbered
      have tail := List.pairwise_cons.mp grows
      have grown := tail.1 log List.mem_cons_self
      rw [List.getLast?_cons_cons] at ends
      rw [reports_cons first, drop_split (prefix_last tail.2 ends) grown.length_le]
      exact (List.drop_sublist_drop_left log (Nat.le_max_left ..)).append (ih others tail.2 ends)

theorem reports_complete_iff (numbered : ∀ log ∈ logs, NumberedFrom 0 log)
    (grows : (base :: logs).Pairwise (· <+: ·)) (ends : (base :: logs).getLast? = some last) :
    reports window base.length logs = last.drop base.length ↔
      Unbroken window base.length logs := by
  induction logs generalizing base with
  | nil =>
      obtain rfl : base = last := by simpa using ends
      simp [reports, Unbroken]
  | cons log rest ih =>
      obtain ⟨first, others⟩ := List.forall_mem_cons.mp numbered
      have tail := List.pairwise_cons.mp grows
      have grown := (tail.1 log List.mem_cons_self).length_le
      rw [List.getLast?_cons_cons] at ends
      rw [reports_cons first, drop_split (prefix_last tail.2 ends) grown, Unbroken,
        ← ih others tail.2 ends]
      have within : (reports window log.length rest).length ≤ (last.drop log.length).length :=
        (reports_sublist others tail.2 ends).length_le
      constructor
      · intro same
        -- Neither part is longer than what it is compared with, so both have its length.
        have lengths := congrArg List.length same
        simp only [List.length_append, List.length_drop] at lengths within
        have kept : log.drop (max base.length (log.length - window)) = log.drop base.length := by
          congr 1
          omega
        rw [kept] at same
        exact ⟨by omega, List.append_cancel_left same⟩
      · rintro ⟨narrow, same⟩
        rw [same, Nat.max_eq_left (by omega)]

/-- The newest event is reported by the first poll that finds it. -/
theorem reports_newest (opened : 1 ≤ window) (numbered : ∀ log ∈ logs, NumberedFrom 0 log)
    (grows : (base :: logs).Pairwise (· <+: ·)) (ends : (base :: logs).getLast? = some last) :
    (base ++ reports window base.length logs).getLast? = last.getLast? := by
  induction logs generalizing base with
  | nil =>
      obtain rfl : base = last := by simpa using ends
      rw [reports, List.append_nil]
  | cons log rest ih =>
      obtain ⟨first, others⟩ := List.forall_mem_cons.mp numbered
      have tail := List.pairwise_cons.mp grows
      have grown := tail.1 log List.mem_cons_self
      rw [List.getLast?_cons_cons] at ends
      rw [reports_cons first, ← ih others tail.2 ends, ← List.append_assoc]
      have front : (base ++ log.drop (max base.length (log.length - window))).getLast? =
          log.getLast? := by
        obtain ⟨more, rfl⟩ := grown
        cases more with
        | nil => simp
        | cons event events =>
            have shown : max base.length ((base ++ event :: events).length - window) <
                (base ++ event :: events).length := by
              simp only [List.length_append, List.length_cons]
              omega
            rw [List.getLast?_append, List.getLast?_drop, if_neg (by omega), List.getLast?_append,
              Option.or_assoc, Option.or_self]
      rw [List.getLast?_append, front, ← List.getLast?_append]

end Reports

end Rollout
