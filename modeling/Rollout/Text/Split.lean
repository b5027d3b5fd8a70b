/-!
Texts taken apart at a mark. The front of a single cut holds no mark, so where it is cut is told by
the text; a cut at every mark can be made on each side of one of them alone.
-/

namespace Rollout.Text

/-- The text before and after the first `mark`. -/
def splitOnce (mark : Char) : List Char → Option (List Char × List Char)
  | [] => none
  | c :: rest =>
    if c = mark then some ([], rest)
    else (splitOnce mark rest).map fun (a, b) => (c :: a, b)

/-- The pieces between the marks; one more than there are marks. -/
def splitAll (mark : Char) : List Char → List (List Char)
  | [] => [[]]
  | c :: rest =>
    if c = mark then [] :: splitAll mark rest
    else
      match splitAll mark rest with
      | [] => [[c]]
      | piece :: others => (c :: piece) :: others

variable {mark : Char} {cs front rest piece : List Char}

theorem splitOnce_some :
    splitOnce mark cs = some (front, rest) ↔ mark ∉ front ∧ cs = front ++ mark :: rest := by
  induction cs generalizing front with
  | nil => simp [splitOnce]
  | cons c cs ih =>
      by_cases same : c = mark
      · subst same
        rw [splitOnce, if_pos rfl]
        constructor
        · intro split
          cases split
          exact ⟨List.not_mem_nil, rfl⟩
        · rintro ⟨apart, split⟩
          cases front with
          | nil => cases split; rfl
          | cons first front =>
              obtain ⟨rfl, _⟩ := List.cons.inj split
              exact absurd List.mem_cons_self apart
      · rw [splitOnce, if_neg same, Option.map_eq_some_iff]
        constructor
        · rintro ⟨⟨before, after⟩, split, both⟩
          cases both
          obtain ⟨apart, rfl⟩ := ih.mp split
          exact ⟨by simp [Ne.symm same, apart], rfl⟩
        · rintro ⟨apart, split⟩
          cases front with
          | nil => exact absurd (List.cons.inj split).1 same
          | cons first front =>
              obtain ⟨rfl, rfl⟩ := List.cons.inj split
              have apart' : mark ∉ front := fun member => apart (List.mem_cons_of_mem _ member)
              exact ⟨_, ih.mpr ⟨apart', rfl⟩, rfl⟩

theorem splitOnce_none : splitOnce mark cs = none ↔ mark ∉ cs := by
  constructor
  · intro whole member
    obtain ⟨front, rest, split, apart⟩ := List.eq_append_cons_of_mem member
    rw [splitOnce_some.mpr ⟨apart, split⟩] at whole
    cases whole
  · intro apart
    cases cut : splitOnce mark cs with
    | none => rfl
    | some parts =>
        obtain ⟨_, rfl⟩ := splitOnce_some.mp cut
        exact absurd (List.mem_append_right _ List.mem_cons_self) apart

/-- A front that may be left out is the one before the first mark. -/
theorem splitOnce_getD {other : List Char} :
    (splitOnce mark cs).getD (other, cs) = (front, rest) ↔
      ∃ part : Option (List Char), part.elim (mark ∉ rest) (mark ∉ ·) ∧
        part.elim [] (· ++ [mark]) ++ rest = cs ∧ part.getD other = front := by
  constructor
  · intro cut
    cases found : splitOnce mark cs with
    | none =>
        rw [found] at cut
        cases cut
        exact ⟨none, splitOnce_none.mp found, rfl, rfl⟩
    | some parts =>
        rw [found] at cut
        obtain rfl : parts = (front, rest) := cut
        obtain ⟨apart, rfl⟩ := splitOnce_some.mp found
        exact ⟨some front, apart, by simp, rfl⟩
  · rintro ⟨_ | part, apart, rfl, rfl⟩
    · rw [Option.elim_none, List.nil_append, splitOnce_none.mpr apart]
      rfl
    · have whole : (some part).elim [] (· ++ [mark]) ++ rest = part ++ mark :: rest := by simp
      rw [whole, splitOnce_some.mpr ⟨apart, rfl⟩]
      rfl

theorem splitAll_ne_nil (mark : Char) (cs : List Char) : splitAll mark cs ≠ [] := by
  cases cs with
  | nil => simp [splitAll]
  | cons c cs =>
      rw [splitAll]
      split
      · simp
      · split <;> simp

/-- One piece more than there are marks. -/
theorem length_splitAll (mark : Char) (cs : List Char) :
    (splitAll mark cs).length = cs.count mark + 1 := by
  induction cs with
  | nil => rfl
  | cons c cs ih =>
      rw [splitAll]
      split
      · rename_i same
        rw [same, List.length_cons, ih, List.count_cons_self]
      · rename_i apart
        rw [List.count_cons_of_ne apart, ← ih]
        split <;> simp_all

theorem splitAll_append (mark : Char) (front rest : List Char) :
    splitAll mark (front ++ mark :: rest) = splitAll mark front ++ splitAll mark rest := by
  induction front with
  | nil => simp [splitAll]
  | cons c front ih =>
      rw [List.cons_append, splitAll, splitAll, ih]
      split
      · rfl
      · -- The first piece of the front is the one that grows.
        obtain ⟨first, others, pieces⟩ := List.exists_cons_of_ne_nil (splitAll_ne_nil mark front)
        rw [pieces]
        rfl

theorem splitAll_whole (apart : mark ∉ piece) : splitAll mark piece = [piece] := by
  induction piece with
  | nil => rfl
  | cons c piece ih =>
      have here : c ≠ mark := fun same => apart (by simp [same])
      rw [splitAll, if_neg here, ih fun member => apart (List.mem_cons_of_mem c member)]

theorem splitAll_whole_iff : splitAll mark piece = [piece] ↔ mark ∉ piece := by
  refine ⟨fun whole => ?_, splitAll_whole⟩
  have counted := length_splitAll mark piece
  rw [whole, List.length_singleton] at counted
  exact List.count_eq_zero.mp (by omega)

theorem splitAll_piece (apart : mark ∉ piece) (rest : List Char) :
    splitAll mark (piece ++ mark :: rest) = piece :: splitAll mark rest := by
  rw [splitAll_append, splitAll_whole apart, List.singleton_append]

end Rollout.Text
