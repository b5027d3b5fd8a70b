import Rollout.Proofs.CharClasses

/-!
The blanks around a text. A text without them stands between two rows of blanks in one way only, so
taking them off is told by what is left.
-/

namespace Rollout.Text

variable {c : Char} {cs front back : List Char}

def Blank (cs : List Char) : Prop := ∀ c ∈ cs, isBlank c = true

/-- No blank at either end. -/
structure Trimmed (cs : List Char) : Prop where
  first : ∀ c ∈ cs.head?, isBlank c = false
  last : ∀ c ∈ cs.getLast?, isBlank c = false

theorem trimLeft_visible (first : ∀ c ∈ cs.head?, isBlank c = false) : trimLeft cs = cs := by
  cases cs with
  | nil => rfl
  | cons c cs => simp [trimLeft, first c rfl]

theorem trimLeft_blank (blank : Blank front) (first : ∀ c ∈ cs.head?, isBlank c = false) :
    trimLeft (front ++ cs) = cs := by
  rw [trimLeft, List.dropWhile_append_of_pos blank]
  exact trimLeft_visible first

theorem trimRight_blank (blank : Blank back) (last : ∀ c ∈ cs.getLast?, isBlank c = false) :
    trimRight (cs ++ back) = cs := by
  have blank' : Blank back.reverse := fun c member => blank c (List.mem_reverse.mp member)
  have first : ∀ c ∈ cs.reverse.head?, isBlank c = false := by
    rw [List.head?_reverse]
    exact last
  have backwards : trimLeft (back.reverse ++ cs.reverse) = cs.reverse :=
    trimLeft_blank blank' first
  rw [trimRight, List.reverse_append, ← trimLeft, backwards, List.reverse_reverse]

theorem trimLeft_split (cs : List Char) : ∃ front, Blank front ∧ cs = front ++ trimLeft cs := by
  refine ⟨cs.takeWhile isBlank, ?_, List.takeWhile_append_dropWhile.symm⟩
  intro c member
  exact List.all_eq_true.mp List.all_takeWhile c member

theorem trimRight_split (cs : List Char) : ∃ back, Blank back ∧ cs = trimRight cs ++ back := by
  obtain ⟨back, blank, split⟩ := trimLeft_split cs.reverse
  refine ⟨back.reverse, fun c member => blank c (List.mem_reverse.mp member), ?_⟩
  rw [trimRight, ← trimLeft, ← List.reverse_append, ← split, List.reverse_reverse]

theorem trimLeft_first (member : c ∈ (trimLeft cs).head?) : isBlank c = false := by
  have stop := List.head?_dropWhile_not isBlank cs
  rw [← trimLeft, Option.mem_def.mp member] at stop
  exact stop

theorem trimRight_last (member : c ∈ (trimRight cs).getLast?) : isBlank c = false := by
  rw [trimRight, List.getLast?_reverse] at member
  exact trimLeft_first member

theorem trimmed_trim (s : String) : Trimmed (trim s).toList := by
  rw [trim, String.toList_ofList]
  refine ⟨fun c member => ?_, fun c => trimRight_last⟩
  -- What is taken off at the end leaves the first character where it is.
  obtain ⟨back, _, split⟩ := trimRight_split (trimLeft s.toList)
  have first : c ∈ (trimLeft s.toList).head? := by
    rw [split, List.head?_append, Option.mem_def.mp member]
    rfl
  exact trimLeft_first first

/-- What is left stands between blanks and has none at its ends, and nothing else does. -/
theorem toList_trim_iff {s : String} : (trim s).toList = cs ↔
    ∃ front back, Blank front ∧ Blank back ∧ s.toList = front ++ cs ++ back ∧ Trimmed cs := by
  constructor
  · rintro rfl
    obtain ⟨front, blank, split⟩ := trimLeft_split s.toList
    obtain ⟨back, blank', split'⟩ := trimRight_split (trimLeft s.toList)
    refine ⟨front, back, blank, blank', ?_, trimmed_trim s⟩
    rw [trim, String.toList_ofList, List.append_assoc, ← split', ← split]
  · rintro ⟨front, back, blank, blank', split, trimmed⟩
    rw [trim, String.toList_ofList, split, List.append_assoc]
    cases cs with
    | nil =>
        -- Blanks alone: all of them are in front.
        have all : Blank (front ++ back) := fun c member =>
          (List.mem_append.mp member).elim (blank c) (blank' c)
        have none_ : trimLeft (front ++ ([] ++ back)) = [] := by
          rw [List.nil_append, ← List.append_nil (front ++ back)]
          exact trimLeft_blank all (by simp)
        rw [none_]
        rfl
    | cons c cs =>
        have left : trimLeft (front ++ (c :: cs ++ back)) = c :: cs ++ back :=
          trimLeft_blank blank (by simpa using trimmed.first)
        rw [left]
        exact trimRight_blank blank' trimmed.last

theorem trim_of_trimmed {s : String} (trimmed : Trimmed s.toList) : trim s = s := by
  have nothing : Blank [] := by simp [Blank]
  have kept : (trim s).toList = s.toList :=
    toList_trim_iff.mpr ⟨[], [], nothing, nothing, by simp, trimmed⟩
  exact String.toList_inj.mp kept

@[simp] theorem trim_trim (s : String) : trim (trim s) = trim s := trim_of_trimmed (trimmed_trim s)

end Rollout.Text
