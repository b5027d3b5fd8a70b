import Rollout.Execution.Basic

/-!
A cursor over the step history of one execution. Each poll sees the trailing
window of the history; the cursor lets through what it has not seen, and what
fell out of the window before it was seen is lost.
-/

namespace Rollout

structure HistoryCursor where
  previous : Int := 0
  deriving DecidableEq, Repr, Inhabited

namespace HistoryCursor

/-- Events at the front of the window that the newest id says were there before. -/
def skippedByGap (c : HistoryCursor) (window : List HistoryEvent) (newest : Int) : Nat :=
  window.length - min (newest - c.previous).toNat window.length

/-- Events at the front of the window up to the first one with a new id. -/
def skippedById (c : HistoryCursor) (window : List HistoryEvent) : Nat :=
  (window.takeWhile fun event => event.id ≤ c.previous).length

/-- The events of the window not yet seen, and the cursor moved to the newest. -/
def takeNew (c : HistoryCursor) (window : List HistoryEvent) :
    List HistoryEvent × HistoryCursor :=
  match window.getLast? with
  | none => ([], c)
  | some newest =>
    if newest.id ≤ c.previous then ([], c)
    else
      (window.drop (max (c.skippedByGap window newest.id) (c.skippedById window)), ⟨newest.id⟩)

end HistoryCursor

end Rollout
