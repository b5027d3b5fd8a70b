import Rollout.Proofs.EngineRuns

/-!
What an engine keeps: every running execution, and of the ended ones the last so
many, in the order of their ends.
-/

namespace Rollout.Local

namespace Engine

open Time (Instant)

/-- Never started, or followed by so many other ends that it is kept no more. -/
def Gone (limit : Nat) (started finished : List String) (x : String) : Prop :=
  x ∉ started ∨ ∃ before after, finished = before ++ x :: after ∧ limit ≤ after.length

/-- What an engine holds, told from everything started and everything ended so far. -/
structure Retained (limit : Nat) (started finished : List String) (e : Engine) : Prop where
  /-- Oldest first. -/
  queue : e.finished = finished.drop (finished.length - limit)
  once : e.finished.Nodup
  bounded : e.finished.length ≤ limit
  terminal : ∀ x, x ∈ e.finished ↔
    ∃ run, e.run? x = some run ∧ run.description.status ≠ .running
  running : ∀ x ∈ started, x ∉ finished →
    ∃ run, e.run? x = some run ∧ run.description.status = .running
  stored : ∀ x run, e.run? x = some run →
    x ∈ started ∧ (run.description.status = .running ↔ x ∉ finished)
  count : e.count =
    (e.executions.countP fun entry => entry.2.description.status == .running) +
      min limit finished.length
  described : ∀ arn, e.describe arn = .error (.executionNotFound arn.text) ↔
    Gone limit started finished arn.text
  told : ∀ arn max, e.history arn max = .error (.executionNotFound arn.text) ↔
    Gone limit started finished arn.text

/-- The last so many elements are those with fewer than so many behind them. -/
theorem mem_drop_iff {α : Type} {x : α} {limit : Nat} {ended : List α} (once : ended.Nodup) :
    x ∈ ended.drop (ended.length - limit) ↔
      x ∈ ended ∧ ¬ ∃ before after, ended = before ++ x :: after ∧ limit ≤ after.length := by
  constructor
  · intro member
    refine ⟨List.mem_of_mem_drop member, ?_⟩
    rintro ⟨before, after, rfl, far⟩
    -- With so many behind it the element is cut off, and it does not come again.
    have later : x ∉ after := (List.nodup_cons.mp (List.nodup_append.mp once).2.1).1
    obtain ⟨j, size⟩ : ∃ j, (before ++ x :: after).length - limit = before.length + (j + 1) := by
      refine ⟨after.length - limit, ?_⟩
      simp only [List.length_append, List.length_cons]
      omega
    rw [size, List.drop_length_add_append, List.drop_succ_cons] at member
    exact later (List.mem_of_mem_drop member)
  · rintro ⟨member, near⟩
    rw [← List.take_append_drop (ended.length - limit) ended, List.mem_append] at member
    refine member.resolve_left fun early => near ?_
    obtain ⟨before, between, split⟩ := List.append_of_mem early
    refine ⟨before, between ++ ended.drop (ended.length - limit), ?_, ?_⟩
    · conv_lhs => rw [← List.take_append_drop (ended.length - limit) ended, split]
      simp
    · have some_ : 0 < (ended.take (ended.length - limit)).length := List.length_pos_of_mem early
      simp only [List.length_take, List.length_append, List.length_drop] at some_ ⊢
      omega

variable {retention : Nat} {started finished : List String} {e : Engine}

theorem run_none_iff (kept : Kept retention started finished e) (x : String) :
    e.run? x = none ↔ Gone (max 1 retention) started finished x := by
  have absent : e.run? x = none ↔ ¬ ∃ run, e.run? x = some run := by
    cases e.run? x <;> simp
  rw [absent, kept.stored, kept.queue, mem_drop_iff kept.once, Gone]
  constructor
  · intro missing
    by_cases known : x ∈ started
    · right
      by_contra near
      exact missing ⟨known, fun past => ⟨past, near⟩⟩
    · exact .inl known
  · rintro (unknown | far) ⟨known, queued⟩
    · exact unknown known
    · have past : x ∈ finished := by
        obtain ⟨before, after, split, _⟩ := far
        rw [split]
        exact List.mem_append_right _ List.mem_cons_self
      exact (queued past).2 far

/-- The queue is the terminal executions that are stored. -/
theorem queued_iff (kept : Kept retention started finished e) (x : String) :
    x ∈ e.finished ↔ ∃ run, e.run? x = some run ∧ run.description.status ≠ .running := by
  constructor
  · intro member
    have past : x ∈ finished := by
      rw [kept.queue] at member
      exact List.mem_of_mem_drop member
    obtain ⟨run, found⟩ := (kept.stored x).mpr ⟨kept.begun x past, fun _ => member⟩
    exact ⟨run, found, (isTerminal_iff _).mp ((kept.ended x run found).mpr past)⟩
  · rintro ⟨run, found, terminal⟩
    have past := (kept.ended x run found).mp ((isTerminal_iff _).mpr terminal)
    exact ((kept.stored x).mp ⟨run, found⟩).2 past

theorem queue_length (kept : Kept retention started finished e) :
    e.finished.length = min (max 1 retention) finished.length := by
  rw [kept.queue, List.length_drop]
  omega

/-- The terminal executions are as many as the queue holds. -/
theorem count_terminal (kept : Kept retention started finished e) :
    e.executions.countP (fun entry => !(entry.2.description.status == .running)) =
      e.finished.length := by
  have once : e.finished.Nodup := by
    rw [kept.queue]
    exact kept.once.sublist (List.drop_sublist _ _)
  -- Both lists are without repetition, so it is enough that they have the same members.
  have keys := kept.keys.sublist ((List.filter_sublist (l := e.executions)
    (p := fun entry => !(entry.2.description.status == .running))).map Prod.fst)
  have same := (List.perm_ext_iff_of_nodup keys once).mpr ?_
  · rw [← same.length_eq, List.length_map, List.countP_eq_length_filter]
  · intro x
    rw [queued_iff kept]
    simp only [List.mem_map, List.mem_filter, Prod.exists, exists_and_right, exists_eq_right,
      entries_lookup kept.keys]
    simp [run?]

theorem retained (reached : Reached retention started finished e) :
    Retained (max 1 retention) started finished e := by
  have kept := reached_kept reached
  have once : e.finished.Nodup := by
    rw [kept.queue]
    exact kept.once.sublist (List.drop_sublist _ _)
  refine ⟨kept.queue, once, ?_, queued_iff kept, ?_, ?_, ?_, ?_, ?_⟩
  · rw [queue_length kept]
    exact Nat.min_le_left _ _
  · intro x known open_
    obtain ⟨run, found⟩ := (kept.stored x).mpr ⟨known, fun past => absurd past open_⟩
    refine ⟨run, found, ?_⟩
    by_contra terminal
    exact open_ ((kept.ended x run found).mp ((isTerminal_iff _).mpr terminal))
  · intro x run found
    refine ⟨((kept.stored x).mp ⟨run, found⟩).1, ?_⟩
    rw [← kept.ended x run found, isTerminal_iff, not_not]
  · rw [← queue_length kept, ← count_terminal kept, count]
    rw [e.executions.length_eq_countP_add_countP fun entry =>
      entry.2.description.status == .running]
    congr 1
    apply List.countP_congr
    intro entry _
    simp
  · intro arn
    rw [← run_none_iff kept, describe]
    cases e.run? arn.text <;> simp
  · intro arn max
    rw [← run_none_iff kept, history]
    cases e.run? arn.text <;> simp

/-- With nothing to be kept one ended execution is, the last one. -/
theorem sample_retained : ∃ e, Reached 0 [(Sample.arn "1").text, (Sample.arn "2").text]
      [(Sample.arn "1").text, (Sample.arn "2").text] e ∧
    e.finished = [(Sample.arn "2").text] ∧
    e.describe (Sample.arn "1") = .error (.executionNotFound (Sample.arn "1").text) ∧
    Retained 1 [(Sample.arn "1").text, (Sample.arn "2").text]
      [(Sample.arn "1").text, (Sample.arn "2").text] e := by
  obtain ⟨e, reached⟩ := Sample.two_ended 0
  have kept := retained reached
  refine ⟨e, reached, kept.queue, ?_, kept⟩
  exact (kept.described _).mpr (.inr ⟨[], [(Sample.arn "2").text], rfl, Nat.le_refl 1⟩)

end Engine

end Rollout.Local
