import Mathlib.Data.List.Nodup
import Rollout.Proofs.FanOutTurns

/-!
Reports of groups of tasks. A group has its report when the last of its tasks has ended, and what
the report tells rests on the results alone: which values there are, which failure is the first
and how many there are of each. The order in which the tasks ended leaves no trace.
-/

namespace Rollout

variable {ε α : Type} {items : List String} {results : List (Except ε α)}

/-- Only one failure is at the smallest position. -/
theorem FirstFailure.unique {item item' : String} {e e' : ε}
    (one : FirstFailure items results item e) (two : FirstFailure items results item' e') :
    item = item' ∧ e = e' := by
  obtain ⟨position, named, failed, before⟩ := one
  obtain ⟨position', named', failed', before'⟩ := two
  have same : position = position' := by
    rcases Nat.lt_trichotomy position position' with less | same | more
    · obtain ⟨value, passed⟩ := before' position less
      rw [failed] at passed
      cases passed
    · exact same
    · obtain ⟨value, passed⟩ := before position' more
      rw [failed'] at passed
      cases passed
  subst same
  rw [named, Option.some.injEq] at named'
  rw [failed, Option.some.injEq, Except.error.injEq] at failed'
  exact ⟨named', failed'⟩

namespace FanOutReport

section Counts

variable (r : FanOutReport ε α)

theorem completed_add_failed : r.completed + r.failed = r.results.length := by
  have within : r.completed ≤ r.results.length := List.countP_le_length
  rw [failed]
  omega

/-- What has not completed has failed, so both are true counts. -/
theorem failed_eq : r.failed = r.results.countP fun entry => !isOk entry.2 := by
  have total := r.completed_add_failed
  rw [List.length_eq_countP_add_countP fun entry : String × Except ε α => isOk entry.2,
    completed] at total
  simpa using Nat.add_left_cancel total

end Counts

theorem countP_zip (size : results.length = items.length) (p : Except ε α → Bool) :
    (items.zip results).countP (fun entry => p entry.2) = results.countP p := by
  have kept : (items.zip results).map Prod.snd = results := List.map_snd_zip (Nat.le_of_eq size)
  conv_rhs => rw [← kept, List.countP_map]
  rfl

/-- What a report tells of tasks of `items` that have ended with `results`. -/
structure Accounts (report : FanOutReport ε α) (items : List String)
    (results : List (Except ε α)) : Prop where
  inOrder : report.results = items.zip results
  completed : report.completed = results.countP isOk
  failed : report.failed = results.countP (!isOk ·)
  total : report.completed + report.failed = items.length
  first : ∀ item e, report.firstFailure? = some (item, e) ↔ FirstFailure items results item e
  values : ∀ found, report.toExcept = .ok found ↔
    ∃ values, results = values.map .ok ∧ found = items.zip values
  failure : ∀ f, report.toExcept = .error f ↔
    report.firstFailure? = some (f.item, f.error) ∧ f.completed = report.completed ∧
      f.failed = report.failed

theorem firstFailure_iff (size : results.length = items.length) (item : String) (e : ε) :
    firstFailure? ⟨items.zip results⟩ = some (item, e) ↔ FirstFailure items results item e := by
  refine ⟨firstFailure_some size, fun first => ?_⟩
  cases found : firstFailure? ⟨items.zip results⟩ with
  | none => exact absurd (firstFailure_none size found) first.not_succeeded
  | some entry =>
      obtain ⟨rfl, rfl⟩ := (firstFailure_some size found).unique first
      rfl

theorem toExcept_ok_iff (size : results.length = items.length) (found : List (String × α)) :
    toExcept ⟨items.zip results⟩ = .ok found ↔
      ∃ values, results = values.map .ok ∧ found = items.zip values := by
  constructor
  · intro passes
    obtain ⟨values, rfl⟩ := (toExcept_succeeded size passes).exists_values
    rw [toExcept_values, Except.ok.injEq] at passes
    exact ⟨values, rfl, passes.symm⟩
  · rintro ⟨values, rfl, rfl⟩
    exact toExcept_values items values

theorem toExcept_error_iff (r : FanOutReport ε α) (f : FanOutFailure ε) :
    r.toExcept = .error f ↔ r.firstFailure? = some (f.item, f.error) ∧
      f.completed = r.completed ∧ f.failed = r.failed := by
  rw [toExcept_eq]
  constructor
  · intro fails
    split at fails
    · rename_i found
      cases fails
      exact ⟨found, rfl, rfl⟩
    · cases fails
  · rintro ⟨found, completed, failed⟩
    rw [found, ← completed, ← failed]

theorem accounts_zip (size : results.length = items.length) :
    Accounts ⟨items.zip results⟩ items results where
  inOrder := rfl
  completed := countP_zip size isOk
  failed := (failed_eq _).trans (countP_zip size (!isOk ·))
  total := by
    rw [completed_add_failed, List.length_zip, size, Nat.min_self]
  first := firstFailure_iff size
  values := toExcept_ok_iff size
  failure := toExcept_error_iff _

end FanOutReport

namespace FanOut

section Ends

variable {turns : List (TaskTurn ε α)} {f : FanOut ε α}

theorem ended_settled (went : Went items turns f) {position : Nat} {item : String}
    {task : TaskState ε α} {result : Except ε α} (stands : f.tasks[position]? = some (item, task))
    (ended : .ended position result ∈ turns) : task = .settled result := by
  have own : .ended position result ∈ turns.filter (·.position == position) :=
    List.mem_filter.mpr ⟨ended, beq_self_eq_true position⟩
  rw [(went_tells went).each _ _ _ stands] at own
  cases task with
  | waiting => cases own
  | working => simp [TaskState.turns] at own
  | settled other =>
      obtain rfl : result = other := by simpa [TaskState.turns] using own
      rfl

theorem went_foldlM (takes : turns.foldlM turn? (ofItems items) = some f) :
    Went items turns f := by
  induction turns using List.reverseRecOn generalizing f with
  | nil =>
      obtain rfl : ofItems items = f := Option.some.inj takes
      exact .start
  | append_singleton earlier turn ih =>
      rw [List.foldlM_append] at takes
      obtain ⟨g, before, last⟩ := Option.bind_eq_some_iff.mp takes
      rw [List.foldlM_cons] at last
      obtain ⟨h, one, done⟩ := Option.bind_eq_some_iff.mp last
      obtain rfl : h = f := Option.some.inj done
      exact .turn (ih before) one

/-- The report is there once each task has ended, and not before. -/
theorem report_isSome (went : Went items turns f) : f.report?.isSome ↔
    ∀ position < items.length, ∃ result, .ended position result ∈ turns := by
  constructor
  · intro reported position inside
    obtain ⟨report, here⟩ := Option.isSome_iff_exists.mp reported
    obtain ⟨results, size, _, taken⟩ := went_report went here
    have own := taken.each position _ (List.getElem?_eq_getElem (size ▸ inside))
    have ended : .ended position results[position] ∈ turns.filter (·.position == position) := by
      rw [own]
      exact List.mem_cons_of_mem _ List.mem_cons_self
    exact ⟨_, List.mem_of_mem_filter ended⟩
  · intro ended
    rw [Option.isSome_iff_ne_none]
    intro open_
    obtain ⟨⟨item, task⟩, member, missing⟩ := entries_none (Option.map_eq_none_iff.mp open_)
    obtain ⟨position, stands⟩ := List.mem_iff_getElem?.mp member
    have inside := (List.getElem?_eq_some_iff.mp stands).1
    have named := congrArg List.length (went_tells went).named
    rw [List.length_map] at named
    obtain ⟨result, turn⟩ := ended position (named ▸ inside)
    obtain rfl := ended_settled went stands turn
    cases missing

/-- Every task takes two turns and no more. -/
theorem length_turns (went : Went items turns f) : turns.length + f.left = 2 * items.length := by
  induction went with
  | start => rw [left_ofItems, List.length_nil, Nat.zero_add]
  | turn before takes ih =>
      have less := left_turn takes
      rw [List.length_append, List.length_singleton]
      omega

end Ends

section Timed

variable (tasks : List (TimedTask ε α))

/-- The group in which the tasks at some positions have ended and no other has begun. -/
def after (done : List Nat) : FanOut ε α :=
  ⟨tasks.mapIdx fun position task =>
    (task.item, if position ∈ done then .settled task.result else .waiting)⟩

theorem after_nil : after tasks [] = ofItems (tasks.map (·.item)) := by
  refine congrArg FanOut.mk (List.ext_getElem? fun position => ?_)
  simp [List.getElem?_mapIdx, Function.comp_def]

/-- Ending one more task, by what it does when it is its turn. -/
theorem settleAt_after {done : List Nat} {position : Nat} (inside : position < tasks.length)
    (open_ : position ∉ done) :
    TimedTask.settleAt tasks (after tasks done) position = after tasks (done ++ [position]) := by
  have place := List.getElem?_eq_getElem inside
  generalize tasks[position] = task at place
  have stands : (after tasks done).tasks[position]? = some (task.item, .waiting) := by
    simp [after, List.getElem?_mapIdx, place, open_]
  have within := (List.getElem?_eq_some_iff.mp stands).1
  -- The task begins and ends at one place, so the end is all that is left of the two.
  have begun : (after tasks done).begin? position =
      some ⟨(after tasks done).tasks.set position (task.item, .working)⟩ := move_eq stands rfl
  have ended : settle? ⟨(after tasks done).tasks.set position (task.item, .working)⟩ position
      task.result = some ⟨((after tasks done).tasks.set position (task.item, .working)).set position
        (task.item, .settled task.result)⟩ := move_eq (List.getElem?_set_self within) rfl
  have settled : TimedTask.settleAt tasks (after tasks done) position =
      ⟨(after tasks done).tasks.set position (task.item, .settled task.result)⟩ := by
    rw [TimedTask.settleAt, place]
    simp only [begun, Option.bind_some, ended, Option.getD_some, List.set_set]
  rw [settled]
  -- The group is now compared with the one described by position.
  refine congrArg FanOut.mk (List.ext_getElem? fun other => ?_)
  by_cases same : position = other
  · subst same
    rw [List.getElem?_set_self within]
    simp [List.getElem?_mapIdx, place]
  · rw [List.getElem?_set_ne same]
    simp [after, List.getElem?_mapIdx, Ne.symm same]

theorem foldl_settleAt {order done : List Nat}
    (inside : ∀ position ∈ order, position < tasks.length) (distinct : (done ++ order).Nodup) :
    order.foldl (TimedTask.settleAt tasks) (after tasks done) = after tasks (done ++ order) := by
  induction order generalizing done with
  | nil => rw [List.foldl_nil, List.append_nil]
  | cons position rest ih =>
      obtain ⟨here, others⟩ := List.forall_mem_cons.mp inside
      -- A task that has ended cannot end again, hence no position twice.
      have open_ : position ∉ done := fun member =>
        (List.nodup_append.mp distinct).2.2 _ member _ List.mem_cons_self rfl
      rw [List.foldl_cons, settleAt_after tasks here open_]
      have grouped : done ++ position :: rest = done ++ [position] ++ rest := by simp
      rw [grouped] at distinct ⊢
      exact ih others distinct

/-- In whatever order the tasks end, the report is the same. -/
theorem report_foldl {order : List Nat} (each : order.Perm (List.range tasks.length)) :
    (order.foldl (TimedTask.settleAt tasks) (ofItems (tasks.map (·.item)))).report? =
      some ⟨tasks.map fun task => (task.item, task.result)⟩ := by
  have inside : ∀ position ∈ order, position < tasks.length := fun position member =>
    List.mem_range.mp (each.mem_iff.mp member)
  have settled : (after tasks order).tasks =
      tasks.map fun task => (task.item, .settled task.result) := by
    refine List.ext_getElem? fun position => ?_
    cases place : tasks[position]? with
    | none => simp [after, List.getElem?_mapIdx, place]
    | some task =>
        have member : position ∈ order :=
          each.mem_iff.mpr (List.mem_range.mpr (List.getElem?_eq_some_iff.mp place).1)
        simp [after, List.getElem?_mapIdx, place, member]
  have distinct : ([] ++ order).Nodup := each.nodup_iff.mpr List.nodup_range
  rw [← after_nil, foldl_settleAt tasks inside distinct, List.nil_append, report?, settled]
  simp only [List.mapM_map, Function.comp_def, entry?]
  exact congrArg (Option.map _) (List.mapM_pure ..)

end Timed

end FanOut

namespace TimedTask

variable (tasks : List (TimedTask ε α))

theorem endingOrder_perm : (endingOrder tasks).Perm (List.range tasks.length) := by
  have positions : tasks.zipIdx.map Prod.snd = List.range tasks.length := by
    rw [List.zipIdx_map_snd, List.range_eq_range']
  rw [← positions]
  exact (List.mergeSort_perm _ _).map Prod.snd

theorem run_eq : run? tasks = some ⟨tasks.map fun task => (task.item, task.result)⟩ :=
  FanOut.report_foldl tasks (endingOrder_perm tasks)

theorem run_accounts : ∃ report, run? tasks = some report ∧
    report.Accounts (tasks.map (·.item)) (tasks.map (·.result)) := by
  refine ⟨_, run_eq tasks, ?_⟩
  have size : (tasks.map (·.result)).length = (tasks.map (·.item)).length := by simp
  have paired : (tasks.map fun task => (task.item, task.result)) =
      (tasks.map (·.item)).zip (tasks.map (·.result)) := (List.zip_map' ..).symm
  rw [paired]
  exact FanOutReport.accounts_zip size

end TimedTask

namespace FanOut

/-- A group comes to its end in two turns for each task, and once the last task has ended there is a
report: of one result for each item, in item order, whatever the order of the turns. It counts
the results as they are, and hands on all values or else the failure at the smallest position.
Tasks that take times of their own are reported just so. -/
theorem tasks_reported :
    (∀ (items : List String) (turns : List (TaskTurn ε α)) (f : FanOut ε α), Went items turns f →
      turns.length ≤ 2 * items.length ∧
      (f.report? = none → ∃ position, (∃ g, f.begin? position = some g) ∨
        ∀ result, ∃ g, f.settle? position result = some g) ∧
      (f.report?.isSome ↔ ∀ position < items.length, ∃ result, .ended position result ∈ turns) ∧
      ∀ report, f.report? = some report → ∃ results, results.length = items.length ∧
        TakenTurns turns results ∧ report.Accounts items results) ∧
    ∀ tasks : List (TimedTask ε α), ∃ report, TimedTask.run? tasks = some report ∧
      report.Accounts (tasks.map (·.item)) (tasks.map (·.result)) := by
  refine ⟨?_, TimedTask.run_accounts⟩
  intro items turns f went
  refine ⟨?_, report_none, report_isSome went, ?_⟩
  · have whole := length_turns went
    omega
  · intro report here
    obtain ⟨results, size, inOrder, taken⟩ := went_report went here
    obtain rfl : report = ⟨items.zip results⟩ := by rw [← inOrder]
    exact ⟨results, size, taken, FanOutReport.accounts_zip size⟩

def Sample.repositories : List String := ["web", "db", "web"]

/-- The last task fails first, and the one before it last. -/
def Sample.turns : List (TaskTurn String String) := [.began 0, .began 1, .began 2,
  .ended 2 (.error "disk full"), .ended 0 (.ok "web.zip"), .ended 1 (.error "timed out")]

theorem sample_tasks_reported : ∃ f report, Went Sample.repositories Sample.turns f ∧
    f.report? = some report ∧ report.toExcept = .error ⟨"db", "timed out", 1, 2⟩ ∧
    ∃ results, report.Accounts Sample.repositories results := by
  have went := went_foldlM (rfl : Sample.turns.foldlM turn? (ofItems Sample.repositories) = some _)
  obtain ⟨results, _, _, accounts⟩ := (tasks_reported.1 _ _ _ went).2.2.2 _ rfl
  exact ⟨_, _, went, rfl, rfl, results, accounts⟩

end FanOut

end Rollout
