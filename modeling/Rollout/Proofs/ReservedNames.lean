import Rollout.Proofs.Flattening
import Rollout.Proofs.KebabWords

/-!
The names of kept outputs. The filter looks at the name that was exported and
the result holds another one, but small letters at the front of a name are the
front of its first word too, so the reserved word is still where it was.
-/

namespace Rollout

namespace Kebab

open Text

variable {letters : List Char}

theorem wordsAfter_letters (rest : List Char) {prev : Char} (small : prev.isLower = true)
    (all : ∀ c ∈ letters, c.isLower = true) :
    ∃ first others, wordsAfter prev (letters ++ rest) = (letters ++ first, others) := by
  induction letters generalizing prev with
  | nil => exact ⟨_, _, rfl⟩
  | cons c letters ih =>
      obtain ⟨one, more⟩ := List.forall_mem_cons.mp all
      obtain ⟨first, others, found⟩ := ih one more
      refine ⟨first, others, ?_⟩
      rw [List.cons_append, wordsAfter_cons, isBoundary_lower small one,
        if_neg Bool.false_ne_true, found, List.cons_append]

/-- The first word of a text holds all small letters the text begins with. -/
theorem splitWords_letters (rest : List Char) (found : letters ≠ [])
    (all : ∀ c ∈ letters, c.isLower = true) :
    ∃ first others, splitWords (letters ++ rest) = (letters ++ first) :: others := by
  have plain : Plain letters := ⟨found, .inl all⟩
  have run := runs_of_front (frontRun_append plain.alphanumeric rest) (by simp [found])
  obtain ⟨c, letters, rfl⟩ := List.exists_cons_of_ne_nil found
  obtain ⟨one, more⟩ := List.forall_mem_cons.mp all
  obtain ⟨first, others, words⟩ := wordsAfter_letters (frontRun rest).1 one more
  refine ⟨first, others ++ (frontRun rest).2.flatMap wordsOfRun, ?_⟩
  rw [splitWords, run, List.flatMap_cons, List.cons_append, wordsOfRun_cons, words]
  rfl

theorem prefix_joinWords (word : List Char) (words : List (List Char)) :
    word <+: joinWords (word :: words) := by
  cases words with
  | nil => exact List.prefix_rfl
  | cons first words => exact List.prefix_append _ _

theorem kebabCase_letters {key : String} (all : ∀ c ∈ letters, c.isLower = true)
    (begins : letters <+: key.toList) : letters <+: (kebabCase key).toList := by
  obtain ⟨rest, text⟩ := begins
  by_cases found : letters = []
  · rw [found]
    exact List.nil_prefix
  · have plain : Plain letters := ⟨found, .inl all⟩
    obtain ⟨first, others, words⟩ := splitWords_letters rest found all
    have kept : letters.map Char.toLower = letters :=
      (lowerFrom_ascii plain.isAscii []).symm.trans plain.lowered
    rw [toList_kebabCase, wordsOf, ← text, words, List.map_cons, lowerFrom_append plain.isAscii,
      kept]
    exact (List.prefix_append _ _).trans (prefix_joinWords _ _)

end Kebab

namespace Output

variable {reserved : String} {outputs : List OutputElement} {found : Dict String}

/-- Every name in flattened outputs is the name some reserved export is handed on under. -/
theorem mem_keys_named (passes : aggregate reserved outputs = .ok found) {name : String}
    (member : name ∈ found.keys) : ∃ leaf ∈ exports outputs, Named reserved name leaf := by
  obtain rfl := aggregate_ok reserved outputs passes
  obtain ⟨text, here⟩ := Dict.mem_keys.mp member
  rw [Dict.get?_ofList, lookup_kept] at here
  obtain ⟨leaf, last, _⟩ := here
  exact exists_lastNamed.mp ⟨leaf, last⟩

/-- Where the reserved word is made of small letters, every name handed on begins with it. -/
theorem names_reserved (letters : ∀ c ∈ reserved.toList, c.isLower = true)
    (passes : aggregate reserved outputs = .ok found) :
    ∀ name ∈ found.keys, reserved.toList <+: name.toList := by
  intro name member
  obtain ⟨leaf, _, is, rfl⟩ := mem_keys_named passes member
  exact Kebab.kebabCase_letters letters (List.isPrefixOf_iff_prefix.mp is)

/-- The reserved word before a capital of another script, and before a mark that is no letter. -/
def Sample.accented : List OutputElement := [
  [("web", .object [("web:1", .object
    [("bawsÜberURL", .int 1), ("baws\u0301Port", .null), ("Engine", .null)])])]]

theorem sample_names_reserved :
    ∃ found, aggregate defaultReserved Sample.accented = .ok found ∧
      found.keys = ["baws-port", "baws-über-url"] ∧
      ∀ name ∈ found.keys, defaultReserved.toList <+: name.toList := by
  have letters : ∀ c ∈ defaultReserved.toList, c.isLower = true := by simp [defaultReserved]
  have passes : aggregate defaultReserved Sample.accented =
      .ok (Dict.ofList (kept defaultReserved (exports Sample.accented))) := rfl
  exact ⟨_, passes, by decide +kernel, names_reserved letters passes⟩

end Output

end Rollout
