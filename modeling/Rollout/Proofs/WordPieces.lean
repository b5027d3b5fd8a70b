import Rollout.Proofs.KebabWords

/-!
Where the words of a text stand. A loop over the text that goes by index, with each index and each
slice checked, never leaves the text and cuts off the same words. Between two runs of letters and
digits the words can be taken on either side alone, so a run is made of whole words and no word
reaches from one run into another.
-/

namespace Rollout.Kebab

open Text

section Index

variable {chars run : List Char}

/-- The characters from `start` up to `stop`, where the text reaches so far. -/
def slice? (chars : List Char) (start stop : Nat) : Option (List Char) :=
  if start ≤ stop ∧ stop ≤ chars.length then some ((chars.drop start).take (stop - start))
  else none

/-- The words cut off a run, and the index at which the next one starts. -/
structure Cutting where
  words : List (List Char)
  start : Nat

/-- Cuts off the word before an index, if there is a boundary. -/
def Cutting.step? (chars : List Char) (k : Cutting) : Nat → Option Cutting
  | 0 => none
  | before + 1 => do
    let prev ← chars[before]?
    let cur ← chars[before + 1]?
    if isBoundary prev cur chars[before + 2]? then
      let word ← slice? chars k.start (before + 1)
      some ⟨k.words ++ [word], before + 1⟩
    else some k

/-- What is left when all indices have been passed is the last word. -/
def Cutting.finish? (chars : List Char) (k : Cutting) : Option (List (List Char)) :=
  (slice? chars k.start chars.length).map fun word => k.words ++ [word]

/-- The words of a run by index. -/
def cutRun? (chars : List Char) : Option (List (List Char)) :=
  ((List.range' 1 (chars.length - 1)).foldlM (Cutting.step? chars) ⟨[], 0⟩).bind
    (Cutting.finish? chars)

/-- The pieces between separators, without the empty ones. -/
def chunks (chars : List Char) : List (List Char) :=
  (chars.splitOnP fun c => !isAlphanumeric c).filter fun chunk => !chunk.isEmpty

/-- The words of a text by index. -/
def cutWords? (chars : List Char) : Option (List (List Char)) :=
  ((chunks chars).mapM cutRun?).map List.flatten

theorem slice_middle (front middle back : List Char) :
    slice? (front ++ middle ++ back) front.length (front ++ middle).length = some middle := by
  have within : front.length ≤ (front ++ middle).length ∧
      (front ++ middle).length ≤ (front ++ middle ++ back).length := by simp
  rw [slice?, if_pos within]
  simp

/-- A step at the character behind the word under way, which ends with `prev`. -/
theorem step_some {word : List Char} {prev : Char} (ends : word.getLast? = some prev)
    (front : List Char) (words : List (List Char)) (cur : Char) (rest : List Char) :
    Cutting.step? (front ++ word ++ cur :: rest) ⟨words, front.length⟩ (front ++ word).length =
      some (if isBoundary prev cur rest.head? = true then
        ⟨words ++ [word], (front ++ word).length⟩ else ⟨words, front.length⟩) := by
  have cut := slice_middle front word (cur :: rest)
  obtain ⟨pending, rfl⟩ := List.getLast?_eq_some_iff.mp ends
  have size : (front ++ (pending ++ [prev])).length = (front ++ pending).length + 1 := by
    simp [Nat.add_assoc]
  have text : front ++ (pending ++ [prev]) ++ cur :: rest =
      (front ++ pending) ++ prev :: cur :: rest := by simp
  -- The three characters a step looks at are the first ones of what stands behind `pending`.
  have place (i : Nat) :
      ((front ++ pending) ++ prev :: cur :: rest)[(front ++ pending).length + i]? =
        (prev :: cur :: rest)[i]? := by
    rw [List.getElem?_append_right (Nat.le_add_right ..), Nat.add_sub_cancel_left]
  have before : ((front ++ pending) ++ prev :: cur :: rest)[(front ++ pending).length]? =
      some prev := place 0
  have here : ((front ++ pending) ++ prev :: cur :: rest)[(front ++ pending).length + 1]? =
      some cur := place 1
  have behind : ((front ++ pending) ++ prev :: cur :: rest)[(front ++ pending).length + 2]? =
      rest.head? := (place 2).trans List.head?_eq_getElem?.symm
  rw [text, size] at cut ⊢
  rw [Cutting.step?, before, here, behind]
  simp only [Option.bind_eq_bind, Option.bind_some, cut]
  split <;> rfl

/-- The loop from behind the word under way to the end of the run. -/
theorem foldlM_step {word : List Char} {prev : Char} (ends : word.getLast? = some prev)
    (front : List Char) (words : List (List Char)) (rest : List Char) :
    ((List.range' (front ++ word).length rest.length).foldlM
        (Cutting.step? (front ++ word ++ rest)) ⟨words, front.length⟩).bind
      (Cutting.finish? (front ++ word ++ rest)) =
    some (words ++ (word ++ (wordsAfter prev rest).1) :: (wordsAfter prev rest).2) := by
  induction rest generalizing front word words prev with
  | nil =>
      have cut := slice_middle front word []
      rw [List.append_nil] at cut
      have last : Cutting.finish? (front ++ word ++ []) ⟨words, front.length⟩ =
          some (words ++ [word]) := by
        rw [List.append_nil, Cutting.finish?, cut]
        rfl
      rw [wordsAfter, List.append_nil word]
      exact last
  | cons cur rest ih =>
      have size : (front ++ word ++ [cur]).length = (front ++ word).length + 1 := List.length_append
      rw [List.length_cons, List.range'_succ, List.foldlM_cons, step_some ends, wordsAfter_cons,
        ← size]
      split
      · -- The word under way ends here, and the next one begins with `cur`.
        have later := ih (rfl : [cur].getLast? = some cur) (front ++ word) (words ++ [word])
        rw [← List.append_cons, List.append_assoc words] at later
        rw [List.append_nil]
        exact later
      · have later := ih (List.getLast?_concat : (word ++ [cur]).getLast? = some cur) front words
        rw [← List.append_assoc, ← List.append_cons, List.append_assoc word] at later
        exact later

theorem cutRun_eq (found : run ≠ []) : cutRun? run = some (wordsOfRun run) := by
  obtain ⟨c, rest, rfl⟩ := List.exists_cons_of_ne_nil found
  exact foldlM_step (rfl : [c].getLast? = some c) [] [] rest

theorem mapM_cutRun {pieces : List (List Char)} (found : ∀ run ∈ pieces, run ≠ []) :
    pieces.mapM cutRun? = some (pieces.map wordsOfRun) := by
  induction pieces with
  | nil => rfl
  | cons run rest ih =>
      obtain ⟨here, others⟩ := List.forall_mem_cons.mp found
      rw [List.mapM_cons, cutRun_eq here, ih others]
      rfl

theorem runs_front (cs : List Char) : runs cs =
    if (!(frontRun cs).1.isEmpty) = true then (frontRun cs).1 :: (frontRun cs).2
    else (frontRun cs).2 := by
  change (if (frontRun cs).1.isEmpty = true then (frontRun cs).2
    else (frontRun cs).1 :: (frontRun cs).2) = _
  cases (frontRun cs).1 <;> rfl

/-- The first piece is the run at the front, empty or not. -/
theorem splitOnP_front (cs : List Char) : ∃ others,
    cs.splitOnP (fun c => !isAlphanumeric c) = (frontRun cs).1 :: others ∧
      others.filter (fun chunk => !chunk.isEmpty) = (frontRun cs).2 := by
  induction cs with
  | nil => exact ⟨[], rfl, rfl⟩
  | cons c rest ih =>
      obtain ⟨others, pieces, kept⟩ := ih
      rw [List.splitOnP_cons_eq_if_modifyHead, pieces, frontRun_cons]
      by_cases shown : isAlphanumeric c = true
      · exact ⟨others, by simp [shown], by simpa [shown] using kept⟩
      · refine ⟨(frontRun rest).1 :: others, by simp [shown], ?_⟩
        rw [if_neg shown, List.filter_cons, kept, runs_front]

/-- Split at the separators and without the empty pieces a text is its runs. -/
theorem chunks_eq (cs : List Char) : chunks cs = runs cs := by
  obtain ⟨others, pieces, kept⟩ := splitOnP_front cs
  rw [chunks, pieces, List.filter_cons, kept, runs_front]

theorem ne_nil_of_runs {cs : List Char} : ∀ run ∈ runs cs, run ≠ [] := by
  intro run member
  rw [← chunks_eq, chunks, List.mem_filter] at member
  simpa using member.2

/-- No index and no slice of the loop is out of range, and the words are those of the text. -/
theorem cutWords_eq (cs : List Char) : cutWords? cs = some (splitWords cs) := by
  rw [cutWords?, chunks_eq, mapM_cutRun ne_nil_of_runs, Option.map_some, splitWords,
    List.flatMap_def]

end Index

section Separators

variable {c : Char} {cs before run after : List Char}

theorem runs_append (mark : isAlphanumeric c = false) (before after : List Char) :
    runs (before ++ c :: after) = runs before ++ runs after := by
  simp only [← chunks_eq, chunks]
  rw [List.splitOnP_append_cons before after (by simpa using mark), List.filter_append]

/-- Letters and digits in a row that cannot be made longer. -/
structure MaximalRun (cs before run after : List Char) : Prop where
  text : cs = before ++ run ++ after
  ne_nil : run ≠ []
  shown : ∀ c ∈ run, isAlphanumeric c = true
  left : ∀ c ∈ before.getLast?, isAlphanumeric c = false
  right : ∀ c ∈ after.head?, isAlphanumeric c = false

theorem runs_right (shown : ∀ c ∈ run, isAlphanumeric c = true) (found : run ≠ [])
    (right : ∀ c ∈ after.head?, isAlphanumeric c = false) :
    runs (run ++ after) = run :: runs after := by
  have whole := runs_whole shown found
  cases after with
  | nil =>
      rw [List.append_nil, whole]
      rfl
  | cons c after =>
      have mark : isAlphanumeric c = false := right c rfl
      have behind : runs (c :: after) = runs after := runs_append mark [] after
      rw [runs_append mark, whole, behind, List.singleton_append]

theorem MaximalRun.runs_eq (maximal : MaximalRun cs before run after) :
    runs cs = runs before ++ run :: runs after := by
  have behind := runs_right maximal.shown maximal.ne_nil maximal.right
  rw [maximal.text, List.append_assoc]
  cases last : before.getLast? with
  | none =>
      obtain rfl := List.getLast?_eq_none_iff.mp last
      exact behind
  | some c =>
      obtain ⟨front, rfl⟩ := List.getLast?_eq_some_iff.mp last
      have mark : isAlphanumeric c = false := maximal.left c last
      have nothing : runs (front ++ [c]) = runs front := by
        rw [runs_append mark]
        exact List.append_nil _
      rw [List.append_assoc, List.singleton_append, runs_append mark, behind, nothing]

/-- The words of a text are those before a run, those of the run and those behind it. -/
theorem MaximalRun.splitWords_eq (maximal : MaximalRun cs before run after) :
    splitWords cs = splitWords before ++ splitWords run ++ splitWords after := by
  have own := runs_whole maximal.shown maximal.ne_nil
  simp [splitWords, maximal.runs_eq, own]

theorem eq_of_mem_runs {front : List Char} (shown : ∀ c ∈ front, isAlphanumeric c = true)
    (member : run ∈ runs front) : run = front ∧ front ≠ [] := by
  cases front with
  | nil => cases member
  | cons c front =>
      rw [runs_whole shown (List.cons_ne_nil c front), List.mem_singleton] at member
      exact ⟨member, List.cons_ne_nil c front⟩

/-- A run that is found is a maximal one; `front` is what has been passed of it. -/
theorem exists_maximal {front : List Char} (shown : ∀ c ∈ front, isAlphanumeric c = true)
    (member : run ∈ runs (front ++ cs)) :
    ∃ before after, MaximalRun (front ++ cs) before run after := by
  induction cs generalizing front with
  | nil =>
      rw [List.append_nil] at member ⊢
      obtain ⟨rfl, found⟩ := eq_of_mem_runs shown member
      exact ⟨[], [], ⟨by simp, found, shown, by simp, by simp⟩⟩
  | cons c rest ih =>
      by_cases mark : isAlphanumeric c = true
      · have longer : ∀ d ∈ front ++ [c], isAlphanumeric d = true :=
          List.forall_mem_append.mpr ⟨shown, by simpa using mark⟩
        rw [List.append_cons] at member ⊢
        exact ih longer member
      · rw [Bool.not_eq_true] at mark
        rw [runs_append mark] at member
        rcases List.mem_append.mp member with first | later
        · obtain ⟨rfl, found⟩ := eq_of_mem_runs shown first
          exact ⟨[], c :: rest, ⟨by simp, found, shown, by simp, by simpa using mark⟩⟩
        · -- The run stands behind the separator, and nothing in front of it matters.
          obtain ⟨before, after, maximal⟩ := @ih [] (by simp) later
          refine ⟨front ++ c :: before, after,
            ⟨?_, maximal.ne_nil, maximal.shown, ?_, maximal.right⟩⟩
          · have text : rest = before ++ run ++ after := maximal.text
            simp [text]
          · rw [List.getLast?_append_cons]
            cases before with
            | nil => simpa using mark
            | cons d before => exact maximal.left

theorem word_within {word : List Char} (member : word ∈ splitWords cs) :
    ∃ before run after, MaximalRun cs before run after ∧ word ∈ splitWords run := by
  obtain ⟨run, found, inside⟩ := List.mem_flatMap.mp member
  obtain ⟨before, after, maximal⟩ := @exists_maximal cs run [] (by simp) found
  refine ⟨before, run, after, maximal, ?_⟩
  rw [splitWords, runs_whole maximal.shown maximal.ne_nil]
  simpa using inside

theorem MaximalRun.flatten_eq (maximal : MaximalRun cs before run after) :
    (splitWords run).flatten = run := by
  rw [flatten_splitWords, List.filter_eq_self.mpr maximal.shown]

end Separators

/-- The loop by index stays within the text. Its words are not empty and are the letters and digits
of the text in their order; each maximal run of these is made of whole words, and each word lies
within one of them. -/
theorem words_cover (s : String) :
    cutWords? s.toList = some (splitWords s.toList) ∧
    (∀ word ∈ splitWords s.toList, word ≠ []) ∧
    (splitWords s.toList).flatten = s.toList.filter isAlphanumeric ∧
    (∀ before run after, MaximalRun s.toList before run after →
      splitWords s.toList = splitWords before ++ splitWords run ++ splitWords after ∧
      (splitWords run).flatten = run) ∧
    ∀ word ∈ splitWords s.toList, ∃ before run after, MaximalRun s.toList before run after ∧
      word ∈ splitWords run := by
  refine ⟨cutWords_eq _, ?_, flatten_splitWords _, ?_, fun word => word_within⟩
  · intro word member
    exact (splitWords_whole member).ne_nil
  · intro before run after maximal
    exact ⟨maximal.splitWords_eq, maximal.flatten_eq⟩

namespace Sample

/-- A capital and a digit of other scripts inside a run. -/
def run : List Char := ['b', 'Ü', 'U', 'r', 'l', '٢']

theorem maximal : MaximalRun "-bÜUrl٢: id".toList ['-'] run [':', ' ', 'i', 'd'] := by
  have all : run.all isAlphanumeric = true := by decide +kernel
  refine ⟨by simp [run], by decide, List.all_eq_true.mp all, ?_, ?_⟩
  · rintro _ ⟨⟩
    rfl
  · rintro _ ⟨⟩
    rfl

end Sample

theorem sample_words_cover :
    MaximalRun "-bÜUrl٢: id".toList ['-'] Sample.run [':', ' ', 'i', 'd'] ∧
    splitWords Sample.run = [['b'], ['Ü'], ['U', 'r', 'l'], ['٢']] ∧
    splitWords "-bÜUrl٢: id".toList =
      splitWords ['-'] ++ splitWords Sample.run ++ splitWords [':', ' ', 'i', 'd'] := by
  have whole := (words_cover "-bÜUrl٢: id").2.2.2.1 _ _ _ Sample.maximal
  exact ⟨Sample.maximal, by decide +kernel, whole.1⟩

end Rollout.Kebab
