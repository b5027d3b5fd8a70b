/-!
Sequence values of audit records: the clock in microseconds, moved past the
value before it when the clock stalls or steps back. Whatever the clock shows,
the values grow.
-/

namespace Rollout

structure AuditSequence where
  last : Int := 0
  deriving DecidableEq, Repr, Inhabited

namespace AuditSequence

def next (s : AuditSequence) (clock : Int) : Int := max clock (s.last + 1)

def advance (s : AuditSequence) (clock : Int) : AuditSequence := ⟨s.next clock⟩

/-- The values handed out for a list of clock readings. -/
def values (s : AuditSequence) : List Int → List Int
  | [] => []
  | clock :: rest => s.next clock :: (s.advance clock).values rest

theorem last_lt_next (s : AuditSequence) (clock : Int) : s.last < s.next clock := by
  unfold next
  omega

/-- Each value is the clock's, or the first one after the value before it. -/
theorem values_eq (s : AuditSequence) (clocks : List Int) :
    s.values clocks = clocks.zipWith (fun clock previous => max clock (previous + 1))
      (s.last :: s.values clocks) := by
  induction clocks generalizing s with
  | nil => rfl
  | cons clock rest ih => exact congrArg (s.next clock :: ·) (ih (s.advance clock))

/-- The sequence after values were taken for a list of clock readings. -/
def after (s : AuditSequence) (clocks : List Int) : AuditSequence := clocks.foldl advance s

theorem values_append (s : AuditSequence) (clocks : List Int) (clock : Int) :
    s.values (clocks ++ [clock]) = s.values clocks ++ [(s.after clocks).next clock] := by
  induction clocks generalizing s with
  | nil => rfl
  | cons first rest ih => exact congrArg (s.next first :: ·) (ih (s.advance first))

theorem after_append (s : AuditSequence) (clocks : List Int) (clock : Int) :
    s.after (clocks ++ [clock]) = (s.after clocks).advance clock := by
  simp [after]

theorem values_increasing (s : AuditSequence) (clocks : List Int) :
    (s.last :: s.values clocks).Pairwise (· < ·) := by
  induction clocks generalizing s with
  | nil => exact List.pairwise_singleton _ _
  | cons clock rest ih =>
      have later := ih (s.advance clock)
      refine List.pairwise_cons.mpr ⟨?_, later⟩
      intro value member
      have first : s.last < s.next clock := s.last_lt_next clock
      rcases List.mem_cons.mp member with rfl | member
      · exact first
      · exact Int.lt_trans first ((List.pairwise_cons.mp later).1 value member)

end AuditSequence

end Rollout
