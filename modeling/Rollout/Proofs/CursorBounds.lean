import Rollout.Execution.Cursor
import Rollout.Numeral.Whole

/-!
A cursor given one window after the other. Nothing is assumed of the order of
the ids, only that 64 bits hold them; the calls are compared with calls that
check every difference, count and place before they use it. Where each window
has rising ids, the calls let through exactly what is new.
-/

namespace Rollout

/-- A whole number that so many bits hold, one of them the sign. -/
def Numeral.Signed (bits : Nat) (n : Int) : Prop := leastSigned bits ≤ n ∧ n ≤ greatestSigned bits

instance (bits : Nat) (n : Int) : Decidable (Numeral.Signed bits n) :=
  inferInstanceAs (Decidable (_ ∧ _))

namespace HistoryCursor

/-- How far the newest id is ahead; none where 64 bits do not hold the difference. -/
def gap? (newest previous : Int) : Option Int :=
  if Numeral.Signed 64 (newest - previous) then some (newest - previous) else none

/-- A gap as a count. A gap that is no count is taken for the greatest one. -/
def countOf (gap : Int) : Nat :=
  if 0 ≤ gap ∧ gap ≤ Numeral.greatest 64 then gap.toNat else Numeral.greatest 64

/-- What is left of a count; none below zero. -/
def left? (whole part : Nat) : Option Nat := if part ≤ whole then some (whole - part) else none

/-- The window from a place on; none where the place is beyond its end. -/
def tail? (window : List HistoryEvent) (place : Nat) : Option (List HistoryEvent) :=
  if place ≤ window.length then some (window.drop place) else none

/-- `takeNew` with every step checked. -/
def takeChecked (c : HistoryCursor) (window : List HistoryEvent) :
    Option (List HistoryEvent × HistoryCursor) :=
  match window.getLast? with
  | none => some ([], c)
  | some newest =>
    if newest.id ≤ c.previous then some ([], c)
    else do
      let gap ← gap? newest.id c.previous
      let byGap ← left? window.length (min (countOf gap) window.length)
      let fresh ← tail? window (max byGap (c.skippedById window))
      some (fresh, ⟨newest.id⟩)

/-- One call: where the cursor stood, what it was given, what it let through, where it stands. -/
structure Taking where
  before : HistoryCursor
  window : List HistoryEvent
  fresh : List HistoryEvent
  after : HistoryCursor

def takings : HistoryCursor → List (List HistoryEvent) → List Taking
  | _, [] => []
  | c, window :: rest =>
    ⟨c, window, (c.takeNew window).1, (c.takeNew window).2⟩ :: takings (c.takeNew window).2 rest

def takingsChecked : HistoryCursor → List (List HistoryEvent) → Option (List Taking)
  | _, [] => some []
  | c, window :: rest => do
    let (fresh, after) ← c.takeChecked window
    let others ← takingsChecked after rest
    some (⟨c, window, fresh, after⟩ :: others)

/-- Where the cursor stands after all the windows. -/
def reached (c : HistoryCursor) (windows : List (List HistoryEvent)) : HistoryCursor :=
  windows.foldl (fun c window => (c.takeNew window).2) c

/-- The ids the windows end with. -/
def lastIds (windows : List (List HistoryEvent)) : List Int :=
  (windows.filterMap List.getLast?).map HistoryEvent.id

/-- The two ways of a call: nothing is newer than the cursor, or the cursor moves to the newest. -/
theorem takeNew_cases (c : HistoryCursor) (window : List HistoryEvent) :
    ((∀ newest, window.getLast? = some newest → newest.id ≤ c.previous) ∧
      c.takeNew window = ([], c)) ∨
    ∃ newest, window.getLast? = some newest ∧ c.previous < newest.id ∧
      c.takeNew window =
        (window.drop (max (c.skippedByGap window newest.id) (c.skippedById window)),
          ⟨newest.id⟩) := by
  cases last : window.getLast? with
  | none =>
      left
      constructor
      · intro newest impossible
        cases impossible
      · simp [takeNew, last]
  | some newest =>
      by_cases stale : newest.id ≤ c.previous
      · left
        constructor
        · intro other same
          cases same
          exact stale
        · simp [takeNew, last, stale]
      · right
        refine ⟨newest, rfl, by omega, ?_⟩
        simp [takeNew, last, stale]

theorem skippedByGap_le (c : HistoryCursor) (window : List HistoryEvent) (newest : Int) :
    c.skippedByGap window newest ≤ window.length := Nat.sub_le _ _

theorem skippedById_le (c : HistoryCursor) (window : List HistoryEvent) :
    c.skippedById window ≤ window.length :=
  (List.takeWhile_prefix _).length_le

/-- A window that is ahead of the cursor is let through to its end. -/
theorem takeNew_newest (c : HistoryCursor) (window : List HistoryEvent) :
    ((∀ newest, window.getLast? = some newest → newest.id ≤ c.previous) ∧
      c.takeNew window = ([], c)) ∨
    ∃ newest, window.getLast? = some newest ∧ c.previous < newest.id ∧
      (c.takeNew window).1.getLast? = some newest ∧ (c.takeNew window).2.previous = newest.id := by
  rcases takeNew_cases c window with stale | ⟨newest, last, ahead, taken⟩
  · exact Or.inl stale
  · right
    have inside := List.mem_of_getLast? last
    have byGap : c.skippedByGap window newest.id < window.length := by
      have filled : 0 < window.length := List.length_pos_of_mem inside
      rw [skippedByGap]
      omega
    have byId : c.skippedById window < window.length := by
      apply Nat.lt_of_le_of_ne (skippedById_le c window)
      intro all
      -- Were all events skipped, the newest would be one of them.
      have whole : window.takeWhile (fun event => event.id ≤ c.previous) = window :=
        (List.takeWhile_prefix _).eq_of_length all
      rw [← whole] at inside
      have skipped := List.all_eq_true.mp List.all_takeWhile newest inside
      simp only [decide_eq_true_eq] at skipped
      omega
    refine ⟨newest, last, ahead, ?_, by rw [taken]⟩
    rw [taken, List.getLast?_drop, if_neg (by omega), last]

theorem takeNew_suffix (c : HistoryCursor) (window : List HistoryEvent) :
    (c.takeNew window).1 <:+ window := by
  rcases takeNew_cases c window with ⟨_, taken⟩ | ⟨newest, _, _, taken⟩
  · rw [taken]
    exact List.nil_suffix
  · rw [taken]
    exact List.drop_suffix _ _

/-- The cursor moves to the last id of the window, if that is ahead. -/
theorem takeNew_previous (c : HistoryCursor) (window : List HistoryEvent) :
    (c.takeNew window).2.previous = (lastIds [window]).foldl max c.previous := by
  rcases takeNew_cases c window with ⟨behind, taken⟩ | ⟨newest, last, ahead, taken⟩
  · rw [taken]
    cases last : window.getLast? with
    | none => simp [lastIds, last]
    | some newest =>
        have stale := behind newest last
        simp only [lastIds, List.filterMap_cons, last, List.filterMap_nil, List.map_cons,
          List.map_nil, List.foldl_cons, List.foldl_nil]
        omega
  · simp only [taken, lastIds, List.filterMap_cons, last, List.filterMap_nil, List.map_cons,
      List.map_nil, List.foldl_cons, List.foldl_nil]
    omega

theorem takeNew_forward (c : HistoryCursor) (window : List HistoryEvent) :
    c.previous ≤ (c.takeNew window).2.previous := by
  rcases takeNew_cases c window with ⟨_, taken⟩ | ⟨newest, _, ahead, taken⟩
  · exact Int.le_of_eq (by rw [taken])
  · rw [taken]
    exact Int.le_of_lt ahead

section Checked

/-- A cursor that is not below zero cannot be so far behind that the difference overflows. -/
theorem gap?_eq {newest previous : Int} (held : Numeral.Signed 64 newest) (start : 0 ≤ previous)
    (ahead : previous < newest) : gap? newest previous = some (newest - previous) := by
  have upper := held.2
  have lower : Numeral.leastSigned 64 ≤ 0 := by decide
  rw [gap?, if_pos]
  constructor
  · omega
  · omega

theorem countOf_eq {gap : Int} (start : 0 ≤ gap) (held : gap ≤ Numeral.greatestSigned 64) :
    countOf gap = gap.toNat := by
  have wider : Numeral.greatestSigned 64 ≤ Numeral.greatest 64 := by decide
  rw [countOf, if_pos]
  constructor
  · exact start
  · omega

theorem takeChecked_eq {c : HistoryCursor} {window : List HistoryEvent}
    (held : ∀ event ∈ window, Numeral.Signed 64 event.id) (start : 0 ≤ c.previous) :
    c.takeChecked window = some (c.takeNew window) := by
  unfold takeChecked
  cases last : window.getLast? with
  | none => simp [takeNew, last]
  | some newest =>
      by_cases stale : newest.id ≤ c.previous
      · simp [takeNew, last, stale]
      · have newest_held := held newest (List.mem_of_getLast? last)
        have ahead : c.previous < newest.id := by omega
        have counted : countOf (newest.id - c.previous) = (newest.id - c.previous).toNat :=
          countOf_eq (by omega) (by have upper := newest_held.2; omega)
        have within : max (c.skippedByGap window newest.id) (c.skippedById window) ≤
            window.length :=
          Nat.max_le.mpr ⟨skippedByGap_le c window newest.id, skippedById_le c window⟩
        have sliced : tail? window (max (c.skippedByGap window newest.id) (c.skippedById window)) =
            some (window.drop (max (c.skippedByGap window newest.id) (c.skippedById window))) :=
          if_pos within
        have kept : left? window.length
            (min (newest.id - c.previous).toNat window.length) =
            some (c.skippedByGap window newest.id) := if_pos (Nat.min_le_right _ _)
        simp [takeNew, last, stale, gap?_eq newest_held start ahead, counted, kept, sliced]

theorem takingsChecked_eq {c : HistoryCursor} {windows : List (List HistoryEvent)}
    (held : ∀ window ∈ windows, ∀ event ∈ window, Numeral.Signed 64 event.id)
    (start : 0 ≤ c.previous) : takingsChecked c windows = some (takings c windows) := by
  induction windows generalizing c with
  | nil => rfl
  | cons window rest ih =>
      -- The cursor only moves forward, so it is never below zero.
      have onward := ih (fun other member => held other (List.mem_cons_of_mem _ member))
        (Int.le_trans start (takeNew_forward c window))
      simp [takingsChecked, takings, takeChecked_eq (held window List.mem_cons_self) start, onward]

end Checked

/-- Each id is greater than the one before. -/
def Rising (window : List HistoryEvent) : Prop :=
  window.Pairwise fun first second => first.id < second.id

instance (window : List HistoryEvent) : Decidable (Rising window) :=
  inferInstanceAs (Decidable (window.Pairwise _))

section RisingIds

variable {window : List HistoryEvent} {newest : HistoryEvent}

theorem rising_last (rising : Rising window) (last : window.getLast? = some newest) :
    ∀ event ∈ window, event.id ≤ newest.id := by
  obtain ⟨front, rfl⟩ := List.getLast?_eq_some_iff.mp last
  intro event member
  rcases List.mem_append.mp member with earlier | final
  · have before := (List.pairwise_append.mp rising).2.2 event earlier newest (by simp)
    omega
  · exact Int.le_of_eq (by rw [List.mem_singleton.mp final])

/-- Past the first id beyond a bound, all ids are beyond it. -/
theorem rising_filter (rising : Rising window) (lower : Int) :
    window.filter (fun event => lower < event.id) =
      window.drop (window.takeWhile fun event => event.id ≤ lower).length := by
  induction window with
  | nil => rfl
  | cons event rest ih =>
      obtain ⟨above, tail⟩ := List.pairwise_cons.mp rising
      by_cases low : event.id ≤ lower
      · have out : ¬ lower < event.id := by omega
        rw [List.filter_cons_of_neg (by simpa using out),
          List.takeWhile_cons_of_pos (by simpa using low), List.length_cons, List.drop_succ_cons]
        exact ih tail
      · rw [List.takeWhile_cons_of_neg (by simpa using low), List.length_nil, List.drop_zero]
        apply List.filter_eq_self.mpr
        intro other member
        rcases List.mem_cons.mp member with rfl | later
        · exact decide_eq_true (by omega)
        · have beyond := above other later
          exact decide_eq_true (by omega)

/-- Between a bound and the last id there is room for no more events than ids. -/
theorem rising_count (rising : Rising window) (last : window.getLast? = some newest)
    (lower : Int) :
    (window.filter fun event => lower < event.id).length ≤ (newest.id - lower).toNat := by
  induction window generalizing lower with
  | nil => cases last
  | cons event rest ih =>
      obtain ⟨above, tail⟩ := List.pairwise_cons.mp rising
      cases rest with
      | nil =>
          cases last
          by_cases beyond : lower < event.id
          · have room : 1 ≤ (event.id - lower).toNat := by omega
            simpa [beyond] using room
          · simp [beyond]
      | cons other others =>
          have ends : (other :: others).getLast? = some newest := by simpa using last
          by_cases beyond : lower < event.id
          · -- Everything behind this event is beyond its id and so beyond the bound.
            have all : ∀ bound : Int, bound ≤ event.id →
                (other :: others).filter (fun event => bound < event.id) = other :: others := by
              intro bound low
              apply List.filter_eq_self.mpr
              intro later member
              have higher := above later member
              exact decide_eq_true (by omega)
            have room := ih tail ends event.id
            have front := above newest (List.mem_of_getLast? ends)
            rw [all event.id (Int.le_refl _)] at room
            rw [List.filter_cons_of_pos (by simpa using beyond), all lower (by omega),
              List.length_cons]
            omega
          · rw [List.filter_cons_of_neg (by simpa using beyond)]
            exact ih tail ends lower

/-- With rising ids the count by ids never cuts off a new event. -/
theorem skippedByGap_le_byId (c : HistoryCursor) (rising : Rising window)
    (last : window.getLast? = some newest) :
    c.skippedByGap window newest.id ≤ c.skippedById window := by
  have counted := rising_count rising last c.previous
  have split : (window.takeWhile fun event => event.id ≤ c.previous).length =
      c.skippedById window := rfl
  rw [rising_filter rising, List.length_drop, split] at counted
  have within := skippedById_le c window
  rw [skippedByGap]
  omega

/-- What is let through are the events with an id beyond the cursor. -/
theorem takeNew_filter (c : HistoryCursor) (rising : Rising window) :
    (c.takeNew window).1 = window.filter fun event => c.previous < event.id := by
  rcases takeNew_cases c window with ⟨behind, taken⟩ | ⟨newest, last, ahead, taken⟩
  · rw [taken]
    symm
    apply List.filter_eq_nil_iff.mpr
    intro event member
    cases last : window.getLast? with
    | none =>
        rw [List.getLast?_eq_none_iff.mp last] at member
        cases member
    | some newest =>
        have below := rising_last rising last event member
        have stale := behind newest last
        simpa using Int.le_trans below stale
  · rw [taken, rising_filter rising, Nat.max_eq_right (skippedByGap_le_byId c rising last)]
    rfl

/-- Nothing let through is beyond where the cursor then stands. -/
theorem takeNew_bounds (c : HistoryCursor) (rising : Rising window) :
    ∀ event ∈ (c.takeNew window).1,
      c.previous < event.id ∧ event.id ≤ (c.takeNew window).2.previous := by
  intro event member
  have inside : event ∈ window := (takeNew_suffix c window).subset member
  constructor
  · rw [takeNew_filter c rising] at member
    simpa using (List.mem_filter.mp member).2
  · rcases takeNew_cases c window with ⟨_, taken⟩ | ⟨newest, last, _, taken⟩
    · rw [taken] at member
      cases member
    · rw [taken]
      exact rising_last rising last event inside

end RisingIds

section Rows

theorem takings_forward (c : HistoryCursor) (windows : List (List HistoryEvent)) :
    ∀ t ∈ takings c windows,
      t.fresh <:+ t.window ∧ t.before.previous ≤ t.after.previous := by
  induction windows generalizing c with
  | nil => simp [takings]
  | cons window rest ih =>
      intro t member
      rcases List.mem_cons.mp member with rfl | later
      · exact ⟨takeNew_suffix c window, takeNew_forward c window⟩
      · exact ih _ t later

theorem takings_filter (c : HistoryCursor) {windows : List (List HistoryEvent)}
    (rising : ∀ window ∈ windows, Rising window) :
    ∀ t ∈ takings c windows,
      t.fresh = t.window.filter fun event => t.before.previous < event.id := by
  induction windows generalizing c with
  | nil => simp [takings]
  | cons window rest ih =>
      obtain ⟨first, others⟩ := List.forall_mem_cons.mp rising
      intro t member
      rcases List.mem_cons.mp member with rfl | later
      · exact takeNew_filter c first
      · exact ih _ others t later

/-- All that is let through is beyond the first cursor and in the order of its ids. -/
theorem takings_rising (c : HistoryCursor) {windows : List (List HistoryEvent)}
    (rising : ∀ window ∈ windows, Rising window) :
    Rising ((takings c windows).flatMap Taking.fresh) ∧
      ∀ event ∈ (takings c windows).flatMap Taking.fresh, c.previous < event.id := by
  induction windows generalizing c with
  | nil => simp [takings, Rising]
  | cons window rest ih =>
      obtain ⟨first, others⟩ := List.forall_mem_cons.mp rising
      obtain ⟨later_rising, later_beyond⟩ := ih (c.takeNew window).2 others
      have bounds := takeNew_bounds c first
      rw [takings, List.flatMap_cons]
      constructor
      · apply List.pairwise_append.mpr
        refine ⟨first.sublist (takeNew_suffix c window).sublist, later_rising, ?_⟩
        -- What comes later is beyond the cursor that this call leaves behind.
        intro early member late follows
        have upper := (bounds early member).2
        have lower := later_beyond late follows
        omega
      · intro event member
        rcases List.mem_append.mp member with here | later
        · exact (bounds event here).1
        · exact Int.lt_of_le_of_lt (takeNew_forward c window) (later_beyond event later)

theorem reached_previous (c : HistoryCursor) (windows : List (List HistoryEvent)) :
    (reached c windows).previous = (lastIds windows).foldl max c.previous := by
  induction windows generalizing c with
  | nil => rfl
  | cons window rest ih =>
      have split : lastIds (window :: rest) = lastIds [window] ++ lastIds rest := by
        rw [lastIds, lastIds, lastIds, ← List.map_append, ← List.filterMap_append,
          List.singleton_append]
      rw [split, List.foldl_append, ← takeNew_previous]
      exact ih (c.takeNew window).2

end Rows

/-- Whatever the windows hold, no call computes anything out of range, each lets through the end
of its window, and the cursor never moves back. If the ids of each window rise, a call lets through
exactly the events beyond the cursor, over all calls each id at most once and in rising order, and
the cursor stands at the greatest id a window has ended with. -/
theorem windows_passed (windows : List (List HistoryEvent))
    (held : ∀ window ∈ windows, ∀ event ∈ window, Numeral.Signed 64 event.id) :
    takingsChecked {} windows = some (takings {} windows) ∧
    (∀ t ∈ takings {} windows,
      t.fresh <:+ t.window ∧ t.before.previous ≤ t.after.previous) ∧
    ((∀ window ∈ windows, Rising window) →
      (∀ t ∈ takings {} windows,
        t.fresh = t.window.filter fun event => t.before.previous < event.id) ∧
      Rising ((takings {} windows).flatMap Taking.fresh) ∧
      (reached {} windows).previous = (lastIds windows).foldl max 0) := by
  refine ⟨takingsChecked_eq held (Int.le_refl 0), takings_forward {} windows, ?_⟩
  intro rising
  refine ⟨takings_filter {} rising, ?_, reached_previous {} windows⟩
  exact (takings_rising {} rising).1

namespace Sample

def event (id : Int) : HistoryEvent := ⟨id, "TaskStateEntered", .epoch, none⟩

/-- Stale, empty and gapped windows, with the least and the greatest id there is. -/
def windows : List (List HistoryEvent) :=
  [[event (Numeral.leastSigned 64), event 3], [event 2], [],
    [event 3, event (Numeral.greatestSigned 64)], [event 1, event 7]]

end Sample

theorem sample_windows_passed :
    takingsChecked {} Sample.windows = some (takings {} Sample.windows) ∧
    (takings {} Sample.windows).map Taking.fresh =
      [[Sample.event 3], [], [], [Sample.event (Numeral.greatestSigned 64)], []] ∧
    (reached {} Sample.windows).previous = Numeral.greatestSigned 64 := by
  obtain ⟨checked, _, risen⟩ := windows_passed Sample.windows (by decide)
  obtain ⟨_, _, stands⟩ := risen (by decide)
  exact ⟨checked, by decide, stands.trans (by decide)⟩

end HistoryCursor

end Rollout
