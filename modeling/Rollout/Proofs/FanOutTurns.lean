import Mathlib.Algebra.GroupWithZero.Nat
import Mathlib.Data.List.Basic
import Mathlib.Data.List.Induction
import Mathlib.Data.List.Perm.Basic
import Rollout.FanOut

/-!
Tasks of a group in any order of their turns. Each begins and then ends once,
whatever the others do, and the report holds their results in item order. So the
turns of a group are, up to their order, those that its results call for.
-/

namespace Rollout

/-- A turn of one task of a group: it begins, or it ends with a result. -/
inductive TaskTurn (ε α : Type) where
  | began (position : Nat)
  | ended (position : Nat) (result : Except ε α)

namespace TaskTurn

variable {ε α : Type}

def position : TaskTurn ε α → Nat
  | began position => position
  | ended position _ => position

def ended? : TaskTurn ε α → Option (Nat × Except ε α)
  | began _ => none
  | ended position result => some (position, result)

end TaskTurn

/-- Turns a task still has to take. -/
def TaskState.left {ε α : Type} : TaskState ε α → Nat
  | .waiting => 2
  | .working => 1
  | .settled _ => 0

/-- The turns that have led a task to where it stands. -/
def TaskState.turns {ε α : Type} (position : Nat) : TaskState ε α → List (TaskTurn ε α)
  | .waiting => []
  | .working => [.began position]
  | .settled result => [.began position, .ended position result]

/-- Every task has had its two turns, in this order, and ended with its result. -/
structure TakenTurns {ε α : Type} (turns : List (TaskTurn ε α)) (results : List (Except ε α)) :
    Prop where
  within : ∀ turn ∈ turns, turn.position < results.length
  each : ∀ position result, results[position]? = some result →
    turns.filter (·.position == position) = [.began position, .ended position result]

section Grouping

variable {α : Type}

/-- A list is, up to order, what it has for each number in turn. -/
theorem perm_by_number (number : α → Nat) (count : Nat) (items : List α)
    (within : ∀ item ∈ items, number item < count) :
    items.Perm ((List.range count).flatMap fun n => items.filter (number · == n)) := by
  induction count generalizing items with
  | zero =>
      cases items with
      | nil => exact .nil
      | cons item rest => exact absurd (within item List.mem_cons_self) (Nat.not_lt_zero _)
  | succ count ih =>
      -- The items of the last number go behind all others, which `ih` has put in order.
      have split := (List.filter_append_perm (fun item => decide (number item < count)) items).symm
      have low := ih (items.filter fun item => decide (number item < count)) (by simp)
      have high : (items.filter fun item => !decide (number item < count)) =
          items.filter (number · == count) := by
        apply List.filter_congr
        intro item member
        have bound := within item member
        rw [Bool.eq_iff_iff]
        simp only [Bool.not_eq_true', decide_eq_false_iff_not, beq_iff_eq]
        omega
      have kept : ((List.range count).flatMap fun n =>
            (items.filter fun item => decide (number item < count)).filter (number · == n)) =
          (List.range count).flatMap fun n => items.filter (number · == n) := by
        apply List.flatMap_congr
        intro n member
        rw [List.filter_filter]
        apply List.filter_congr
        intro item _
        have bound := List.mem_range.mp member
        by_cases same : number item = n
        · simp [same, bound]
        · simp [same]
      rw [List.range_succ, List.flatMap_append]
      rw [kept] at low
      rw [high] at split
      simpa using split.trans (low.append_right _)

end Grouping

namespace FanOut

variable {ε α : Type} {items : List String} {f g : FanOut ε α} {turns : List (TaskTurn ε α)}
  {position : Nat}

theorem move_some {change : TaskState ε α → Option (TaskState ε α)}
    (moves : f.move? change position = some g) :
    ∃ item task moved, f.tasks[position]? = some (item, task) ∧ change task = some moved ∧
      g = ⟨f.tasks.set position (item, moved)⟩ := by
  simp only [move?, Option.bind_eq_bind, Option.bind_eq_some_iff] at moves
  obtain ⟨⟨item, task⟩, stands, moved, changes, same⟩ := moves
  exact ⟨item, task, moved, stands, changes, (Option.some.inj same).symm⟩

theorem move_eq {change : TaskState ε α → Option (TaskState ε α)} {item : String}
    {task moved : TaskState ε α} (stands : f.tasks[position]? = some (item, task))
    (changes : change task = some moved) :
    f.move? change position = some ⟨f.tasks.set position (item, moved)⟩ := by
  simp [move?, stands, changes]

/-- The group after a turn, if the task stands where it can take it. -/
def turn? (f : FanOut ε α) : TaskTurn ε α → Option (FanOut ε α)
  | .began position => f.begin? position
  | .ended position result => f.settle? position result

/-- Turns of the tasks of a group in any order. -/
inductive Went (items : List String) : List (TaskTurn ε α) → FanOut ε α → Prop
  | start : Went items [] (ofItems items)
  | turn {turns : List (TaskTurn ε α)} {f g : FanOut ε α} {turn : TaskTurn ε α}
      (before : Went items turns f) (takes : f.turn? turn = some g) : Went items (turns ++ [turn]) g

theorem turn_some {turn : TaskTurn ε α} (takes : f.turn? turn = some g) :
    ∃ item task moved, f.tasks[turn.position]? = some (item, task) ∧
      moved.turns turn.position = task.turns turn.position ++ [turn] ∧
      moved.left + 1 = task.left ∧ g = ⟨f.tasks.set turn.position (item, moved)⟩ := by
  cases turn with
  | began position =>
      obtain ⟨item, task, moved, stands, changes, rfl⟩ := move_some takes
      refine ⟨item, task, moved, stands, ?_, ?_, rfl⟩ <;> cases task <;> cases changes <;> rfl
  | ended position result =>
      obtain ⟨item, task, moved, stands, changes, rfl⟩ := move_some takes
      refine ⟨item, task, moved, stands, ?_, ?_, rfl⟩ <;> cases task <;> cases changes <;> rfl

theorem names_set {item : String} {task : TaskState ε α} (moved : TaskState ε α)
    (stands : f.tasks[position]? = some (item, task)) :
    (f.tasks.set position (item, moved)).map Prod.fst = f.tasks.map Prod.fst := by
  have name : (f.tasks.map Prod.fst)[position]? = some item := by simp [stands]
  obtain ⟨inside, same⟩ := List.getElem?_eq_some_iff.mp name
  rw [List.map_set, ← same]
  exact List.set_getElem_self inside

/-- A turn changes where a task stands, not which tasks there are. -/
theorem turn_names {turn : TaskTurn ε α} (takes : f.turn? turn = some g) :
    g.tasks.map Prod.fst = f.tasks.map Prod.fst := by
  obtain ⟨item, task, moved, stands, _, _, rfl⟩ := turn_some takes
  exact names_set moved stands

/-- Where each task stands says which turns it has had. -/
structure Tells (items : List String) (turns : List (TaskTurn ε α)) (f : FanOut ε α) : Prop where
  named : f.tasks.map (·.1) = items
  within : ∀ turn ∈ turns, turn.position < items.length
  each : ∀ position item task, f.tasks[position]? = some (item, task) →
    turns.filter (·.position == position) = task.turns position

theorem tells_turn {item : String} {task moved : TaskState ε α} {turn : TaskTurn ε α}
    (tells : Tells items turns f) (stands : f.tasks[turn.position]? = some (item, task))
    (grows : moved.turns turn.position = task.turns turn.position ++ [turn]) :
    Tells items (turns ++ [turn]) ⟨f.tasks.set turn.position (item, moved)⟩ where
  named := (names_set moved stands).trans tells.named
  within := by
    have inside := (List.getElem?_eq_some_iff.mp stands).1
    have size := congrArg List.length tells.named
    rw [List.length_map] at size
    refine List.forall_mem_append.mpr ⟨tells.within, ?_⟩
    simpa [← size] using inside
  each := by
    intro position other state here
    rw [List.filter_append]
    -- Only the task whose turn it is has one more.
    by_cases same : turn.position = position
    · subst same
      have inside := (List.getElem?_eq_some_iff.mp stands).1
      rw [List.getElem?_set_self inside] at here
      cases here
      rw [tells.each _ _ _ stands, grows]
      simp
    · rw [List.getElem?_set_ne same] at here
      rw [tells.each _ _ _ here]
      simp [same]

theorem went_tells (went : Went items turns f) : Tells items turns f := by
  induction went with
  | start =>
      refine ⟨by simp [ofItems, Function.comp_def], by simp, ?_⟩
      intro position item task stands
      simp only [ofItems, List.getElem?_map, Option.map_eq_some_iff, Prod.mk.injEq] at stands
      obtain ⟨_, _, _, rfl⟩ := stands
      rfl
  | turn before takes ih =>
      obtain ⟨item, task, moved, stands, grows, _, rfl⟩ := turn_some takes
      exact tells_turn ih stands grows

theorem entries_some {tasks : List (String × TaskState ε α)} {entries : List (String × Except ε α)}
    (settled : tasks.mapM entry? = some entries) :
    tasks = entries.map fun entry => (entry.1, .settled entry.2) := by
  induction tasks generalizing entries with
  | nil =>
      obtain rfl : entries = [] := by simpa using settled.symm
      rfl
  | cons first rest ih =>
      simp only [List.mapM_cons, Option.bind_eq_bind, Option.bind_eq_some_iff, Option.pure_def,
        Option.some.injEq] at settled
      obtain ⟨entry, one, others, more, rfl⟩ := settled
      obtain ⟨item, task⟩ := first
      cases task with
      | waiting => cases one
      | working => cases one
      | settled result =>
          cases one
          rw [List.map_cons, ← ih more]

theorem entries_none {tasks : List (String × TaskState ε α)} (open_ : tasks.mapM entry? = none) :
    ∃ entry ∈ tasks, entry? entry = none := by
  induction tasks with
  | nil => cases open_
  | cons first rest ih =>
      cases one : entry? first with
      | none => exact ⟨first, List.mem_cons_self, one⟩
      | some entry =>
          cases others : rest.mapM entry? with
          | none =>
              obtain ⟨entry, member, missing⟩ := ih others
              exact ⟨entry, List.mem_cons_of_mem _ member, missing⟩
          | some entries =>
              rw [List.mapM_cons, one, others] at open_
              cases open_

/-- In a group without a report some task can take its next turn. -/
theorem report_none (open_ : f.report? = none) :
    ∃ position, (∃ g, f.begin? position = some g) ∨
      ∀ result, ∃ g, f.settle? position result = some g := by
  obtain ⟨⟨item, task⟩, member, missing⟩ := entries_none (Option.map_eq_none_iff.mp open_)
  obtain ⟨position, stands⟩ := List.mem_iff_getElem?.mp member
  refine ⟨position, ?_⟩
  cases task with
  | waiting =>
      left
      exact ⟨_, move_eq stands rfl⟩
  | working =>
      right
      intro result
      exact ⟨_, move_eq stands rfl⟩
  | settled result => cases missing

/-- The report of a group: a result for every item, in item order, and two turns behind each. -/
theorem went_report (went : Went items turns f) {report : FanOutReport ε α}
    (reported : f.report? = some report) :
    ∃ results, results.length = items.length ∧ report.results = items.zip results ∧
      TakenTurns turns results := by
  obtain ⟨entries, settled, rfl⟩ := Option.map_eq_some_iff.mp reported
  have tells := went_tells went
  have tasks := entries_some settled
  have names : entries.map Prod.fst = items := by
    rw [← tells.named, tasks, List.map_map]
    rfl
  have size : (entries.map Prod.snd).length = items.length := by
    rw [← names, List.length_map, List.length_map]
  refine ⟨entries.map Prod.snd, size, List.zip_of_prod names rfl, ⟨?_, ?_⟩⟩
  · intro turn member
    rw [size]
    exact tells.within turn member
  · intro position result here
    obtain ⟨⟨item, _⟩, place, rfl⟩ := by
      simpa only [List.getElem?_map, Option.map_eq_some_iff] using here
    apply tells.each position item (.settled _)
    rw [tasks, List.getElem?_map, place]
    rfl

/-- Turns the tasks still have to take. -/
def left (f : FanOut ε α) : Nat := (f.tasks.map fun entry => entry.2.left).sum

theorem left_ofItems (items : List String) :
    (ofItems items : FanOut ε α).left = 2 * items.length := by
  induction items with
  | nil => rfl
  | cons item rest ih =>
      simp only [left, ofItems, List.map_cons, List.sum_cons, List.length_cons] at ih ⊢
      rw [ih, TaskState.left]
      omega

theorem left_set {tasks : List (String × TaskState ε α)} {item : String}
    {task moved : TaskState ε α} (stands : tasks[position]? = some (item, task))
    (less : moved.left + 1 = task.left) :
    left ⟨tasks.set position (item, moved)⟩ + 1 = left ⟨tasks⟩ := by
  induction tasks generalizing position with
  | nil => cases stands
  | cons first rest ih =>
      cases position with
      | zero =>
          cases stands
          simp only [left, List.set_cons_zero, List.map_cons, List.sum_cons]
          omega
      | succ position =>
          have later := ih stands
          simp only [left, List.set_cons_succ, List.map_cons, List.sum_cons] at later ⊢
          omega

theorem left_turn {turn : TaskTurn ε α} (takes : f.turn? turn = some g) :
    g.left + 1 = f.left := by
  obtain ⟨item, task, moved, stands, _, less, rfl⟩ := turn_some takes
  exact left_set stands less

end FanOut

namespace TakenTurns

variable {ε α : Type} {turns : List (TaskTurn ε α)} {results : List (Except ε α)}

theorem flatMap_getElem (values : List α) :
    ((List.range values.length).flatMap fun n => values[n]?.toList.map (Prod.mk n)) =
      values.mapIdx Prod.mk := by
  induction values using List.reverseRecOn with
  | nil => rfl
  | append_singleton front last ih =>
      have earlier : ((List.range front.length).flatMap fun n =>
            (front ++ [last])[n]?.toList.map (Prod.mk n)) =
          (List.range front.length).flatMap fun n => front[n]?.toList.map (Prod.mk n) := by
        apply List.flatMap_congr
        intro n member
        rw [List.getElem?_append_left (List.mem_range.mp member)]
      rw [List.length_append, List.length_singleton, List.range_succ, List.flatMap_append, earlier,
        ih, List.mapIdx_append]
      simp

/-- Up to their order the ends are those of the results. -/
theorem ends_perm (taken : TakenTurns turns results) :
    (turns.filterMap TaskTurn.ended?).Perm (results.mapIdx Prod.mk) := by
  have grouped := (perm_by_number TaskTurn.position results.length turns taken.within).filterMap
    TaskTurn.ended?
  have ends : ((List.range results.length).flatMap fun n =>
        turns.filter (·.position == n)).filterMap TaskTurn.ended? =
      (List.range results.length).flatMap fun n => results[n]?.toList.map (Prod.mk n) := by
    rw [List.filterMap_flatMap]
    apply List.flatMap_congr
    intro n member
    have bound := List.mem_range.mp member
    rw [taken.each n results[n] (List.getElem?_eq_getElem bound), List.getElem?_eq_getElem bound]
    rfl
  rwa [ends, flatMap_getElem] at grouped

end TakenTurns

/-- No task has failed. -/
def Succeeded {ε α : Type} (results : List (Except ε α)) : Prop :=
  ∀ result ∈ results, ∃ value, result = Except.ok value

/-- The failure at the smallest position. -/
def FirstFailure {ε α : Type} (items : List String) (results : List (Except ε α)) (item : String)
    (failure : ε) : Prop :=
  ∃ position : Nat, items[position]? = some item ∧
    results[position]? = some (Except.error failure) ∧
    ∀ earlier < position, ∃ value, results[earlier]? = some (Except.ok value)

section Report

variable {ε α : Type} {items : List String} {results : List (Except ε α)}

theorem FirstFailure.not_succeeded {item : String} {failure : ε}
    (first : FirstFailure items results item failure) : ¬ Succeeded results := by
  obtain ⟨position, _, failed, _⟩ := first
  intro succeeded
  obtain ⟨value, same⟩ := succeeded _ (List.mem_of_getElem? failed)
  cases same

theorem succeeded_map (found : List α) : Succeeded (found.map (Except.ok : α → Except ε α)) := by
  simp [Succeeded]

theorem Succeeded.exists_values (succeeded : Succeeded results) :
    ∃ found : List α, results = found.map Except.ok := by
  induction results with
  | nil => exact ⟨[], rfl⟩
  | cons result rest ih =>
      obtain ⟨value, rfl⟩ := succeeded _ List.mem_cons_self
      obtain ⟨found, rfl⟩ := ih fun other member => succeeded other (List.mem_cons_of_mem _ member)
      exact ⟨value :: found, rfl⟩

namespace FanOutReport

theorem foldl_next (results : List (String × Except ε α)) (p : Passed ε α) :
    results.foldl Passed.next p =
      ⟨p.values ++ results.filterMap value?, p.failure.or (results.findSome? failure?)⟩ := by
  induction results generalizing p with
  | nil => simp
  | cons entry rest ih =>
      obtain ⟨item, error | value⟩ := entry
      · have failed : rest.foldl Passed.next ⟨p.values, p.failure.or (some (item, error))⟩ =
            ⟨p.values ++ rest.filterMap value?,
              (p.failure.or (some (item, error))).or (rest.findSome? failure?)⟩ := ih _
        rw [Option.or_assoc] at failed
        exact failed
      · have passed : rest.foldl Passed.next ⟨p.values ++ [(item, value)], p.failure⟩ =
            ⟨p.values ++ [(item, value)] ++ rest.filterMap value?,
              p.failure.or (rest.findSome? failure?)⟩ := ih _
        rw [List.append_assoc] at passed
        exact passed

/-- The one pass finds what the two look-ups for failures and for values find. -/
theorem toExcept_eq (r : FanOutReport ε α) : r.toExcept =
    match r.firstFailure? with
    | some (item, error) => .error ⟨item, error, r.completed, r.failed⟩
    | none => .ok (r.results.filterMap value?) := by
  rw [toExcept, foldl_next, firstFailure?, List.nil_append, Option.none_or]
  cases r.results.findSome? failure? <;> rfl

theorem firstFailure_none (size : results.length = items.length)
    (found : (items.zip results).findSome? failure? = none) : Succeeded results := by
  intro result member
  obtain ⟨position, inside, rfl⟩ := List.mem_iff_getElem.mp member
  have named : (items[position], results[position]) ∈ items.zip results :=
    List.mem_iff_getElem.mpr ⟨position, by simp [size]; omega, by simp⟩
  have clean := List.findSome?_eq_none_iff.mp found _ named
  cases one : results[position] with
  | ok value => exact ⟨value, rfl⟩
  | error failure =>
      rw [one] at clean
      cases clean

theorem firstFailure_some {item : String} {failure : ε} (size : results.length = items.length)
    (found : (items.zip results).findSome? failure? = some (item, failure)) :
    FirstFailure items results item failure := by
  induction items generalizing results with
  | nil => cases found
  | cons first items ih =>
      cases results with
      | nil => cases size
      | cons result results =>
          simp only [List.zip_cons_cons, List.findSome?_cons] at found
          cases result with
          | error failed =>
              cases found
              exact ⟨0, rfl, rfl, fun earlier less => absurd less (Nat.not_lt_zero _)⟩
          | ok value =>
              obtain ⟨position, here, failed, before⟩ := ih (Nat.succ.inj size) found
              refine ⟨position + 1, here, failed, ?_⟩
              intro earlier less
              cases earlier with
              | zero => exact ⟨value, rfl⟩
              | succ earlier => exact before earlier (Nat.lt_of_succ_lt_succ less)

theorem toExcept_error (size : results.length = items.length) {f : FanOutFailure ε}
    (fails : toExcept ⟨items.zip results⟩ = .error f) :
    FirstFailure items results f.item f.error := by
  rw [toExcept_eq, firstFailure?] at fails
  split at fails
  · rename_i item failure found
    cases fails
    exact firstFailure_some size found
  · cases fails

theorem toExcept_succeeded (size : results.length = items.length) {values : List (String × α)}
    (passes : toExcept ⟨items.zip results⟩ = .ok values) : Succeeded results := by
  rw [toExcept_eq, firstFailure?] at passes
  split at passes
  · cases passes
  · rename_i found
    exact firstFailure_none size found

/-- Without a failure the report hands on a value for each item, in item order. -/
theorem toExcept_values (items : List String) (found : List α) :
    toExcept (⟨items.zip (found.map .ok)⟩ : FanOutReport ε α) = .ok (items.zip found) := by
  have clean : (items.zip (found.map (Except.ok : α → Except ε α))).findSome? failure? = none := by
    apply List.findSome?_eq_none_iff.mpr
    rintro ⟨item, result⟩ member
    obtain ⟨value, _, rfl⟩ := List.mem_map.mp (List.of_mem_zip member).2
    rfl
  have kept : (items.zip (found.map (Except.ok : α → Except ε α))).filterMap value? =
      items.zip found := by
    rw [List.zip_map_right, List.filterMap_map]
    exact List.filterMap_some
  rw [toExcept_eq, firstFailure?, clean, kept]

end FanOutReport

end Report

end Rollout
