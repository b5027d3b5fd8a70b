import Mathlib.Data.List.Basic
import Rollout.Output.KebabCase
import Rollout.Proofs.CharClasses

/-!
The words of a text. Put together they are its letters and digits in order, none
of them is empty, and no boundary lies inside one. In ASCII that leaves words of
letters and words of digits, and in lower case neither kind is split again, so
kebab case finds the words it has made itself.
-/

namespace Rollout.Kebab

open Text

/-- Two characters that stand next to each other in a word. -/
def Adjoins (a b : Char) : Prop := ∃ next, isBoundary a b next = false

/-- A word of a text: not empty, without a boundary inside, of letters and digits. -/
structure Whole (word : List Char) : Prop where
  ne_nil : word ≠ []
  unbroken : word.IsChain Adjoins
  alphanumeric : ∀ c ∈ word, isAlphanumeric c = true

/-- A word in kebab case: small ASCII letters only or ASCII digits only. -/
structure Plain (word : List Char) : Prop where
  ne_nil : word ≠ []
  uniform : (∀ c ∈ word, c.isLower = true) ∨ ∀ c ∈ word, c.isDigit = true

section Runs

theorem frontRun_cons (c : Char) (rest : List Char) : frontRun (c :: rest) =
    if isAlphanumeric c = true then (c :: (frontRun rest).1, (frontRun rest).2)
    else ([], runs rest) := rfl

theorem frontRun_append {run : List Char} (all : ∀ c ∈ run, isAlphanumeric c = true)
    (rest : List Char) :
    frontRun (run ++ rest) = (run ++ (frontRun rest).1, (frontRun rest).2) := by
  induction run with
  | nil => rfl
  | cons c run ih =>
      have others := ih fun d member => all d (List.mem_cons_of_mem c member)
      rw [List.cons_append, frontRun_cons, if_pos (all c List.mem_cons_self), others,
        List.cons_append]

theorem runs_of_front {cs run : List Char} {others : List (List Char)}
    (front : frontRun cs = (run, others)) (found : run ≠ []) : runs cs = run :: others := by
  simp [runs, front, found]

theorem runs_whole {run : List Char} (shown : ∀ c ∈ run, isAlphanumeric c = true)
    (found : run ≠ []) : runs run = [run] := by
  have front : frontRun run = (run, []) := by simpa [frontRun] using frontRun_append shown []
  exact runs_of_front front found

theorem flatten_runs_eq (cs : List Char) :
    (runs cs).flatten = (frontRun cs).1 ++ (frontRun cs).2.flatten := by
  cases front : frontRun cs with
  | mk run others =>
      cases run with
      | nil => simp [runs, front]
      | cons c run => rw [runs_of_front front (List.cons_ne_nil c run), List.flatten_cons]

/-- What is neither letter nor digit is all that is lost. -/
theorem flatten_runs (cs : List Char) : (runs cs).flatten = cs.filter isAlphanumeric := by
  induction cs with
  | nil => rfl
  | cons c rest ih =>
      rw [flatten_runs_eq, frontRun_cons]
      by_cases kept : isAlphanumeric c = true
      · rw [if_pos kept, List.filter_cons_of_pos kept, ← ih, flatten_runs_eq, List.cons_append]
      · rw [if_neg kept, List.filter_cons_of_neg kept, ← ih, List.nil_append]

end Runs

section Words

theorem wordsAfter_cons (prev cur : Char) (rest : List Char) : wordsAfter prev (cur :: rest) =
    if isBoundary prev cur rest.head? = true then
      ([], (cur :: (wordsAfter cur rest).1) :: (wordsAfter cur rest).2)
    else (cur :: (wordsAfter cur rest).1, (wordsAfter cur rest).2) := rfl

theorem wordsOfRun_cons (c : Char) (rest : List Char) :
    wordsOfRun (c :: rest) = (c :: (wordsAfter c rest).1) :: (wordsAfter c rest).2 := rfl

theorem flatten_wordsAfter (prev : Char) (cs : List Char) :
    (wordsAfter prev cs).1 ++ (wordsAfter prev cs).2.flatten = cs := by
  induction cs generalizing prev with
  | nil => rfl
  | cons cur rest ih =>
      rw [wordsAfter_cons]
      split <;> simp [ih cur]

theorem flatten_wordsOfRun (run : List Char) : (wordsOfRun run).flatten = run := by
  cases run with
  | nil => rfl
  | cons c rest => rw [wordsOfRun_cons, List.flatten_cons, List.cons_append, flatten_wordsAfter]

theorem flatten_splitWords (cs : List Char) :
    (splitWords cs).flatten = cs.filter isAlphanumeric := by
  rw [← flatten_runs, splitWords]
  induction runs cs with
  | nil => rfl
  | cons run others ih =>
      rw [List.flatMap_cons, List.flatten_append, flatten_wordsOfRun, ih, List.flatten_cons]

/-- The word of `prev` goes on without a boundary, and the words behind it are begun anew. -/
theorem wordsAfter_unbroken (prev : Char) (cs : List Char) :
    (prev :: (wordsAfter prev cs).1).IsChain Adjoins ∧
    ∀ word ∈ (wordsAfter prev cs).2, word ≠ [] ∧ word.IsChain Adjoins := by
  induction cs generalizing prev with
  | nil => exact ⟨.singleton prev, by simp [wordsAfter]⟩
  | cons cur rest ih =>
      obtain ⟨first, others⟩ := ih cur
      rw [wordsAfter_cons]
      split
      · refine ⟨.singleton prev, List.forall_mem_cons.mpr ⟨⟨List.cons_ne_nil _ _, first⟩, others⟩⟩
      · rename_i inside
        exact ⟨.cons_cons ⟨rest.head?, Bool.eq_false_iff.mpr inside⟩ first, others⟩

theorem wordsOfRun_unbroken {run word : List Char} (member : word ∈ wordsOfRun run) :
    word ≠ [] ∧ word.IsChain Adjoins := by
  cases run with
  | nil => cases member
  | cons c rest =>
      obtain ⟨first, others⟩ := wordsAfter_unbroken c rest
      rcases List.mem_cons.mp member with rfl | member
      · exact ⟨List.cons_ne_nil _ _, first⟩
      · exact others word member

theorem mem_of_splitWords {cs word : List Char} {c : Char} (member : word ∈ splitWords cs)
    (inside : c ∈ word) : c ∈ cs ∧ isAlphanumeric c = true := by
  rw [← List.mem_filter, ← flatten_splitWords]
  exact List.mem_flatten_of_mem member inside

theorem splitWords_whole {cs word : List Char} (member : word ∈ splitWords cs) : Whole word := by
  obtain ⟨run, _, found⟩ := List.mem_flatMap.mp member
  obtain ⟨ne_nil, unbroken⟩ := wordsOfRun_unbroken found
  exact ⟨ne_nil, unbroken, fun c inside => (mem_of_splitWords member inside).2⟩

/-- A run without boundaries is one word. -/
theorem wordsAfter_single {prev : Char} {cs : List Char}
    (smooth : (prev :: cs).IsChain fun a b => ∀ next, isBoundary a b next = false) :
    wordsAfter prev cs = (cs, []) := by
  induction cs generalizing prev with
  | nil => rfl
  | cons cur rest ih =>
      obtain ⟨first, others⟩ := List.isChain_cons_cons.mp smooth
      rw [wordsAfter_cons, first, if_neg Bool.false_ne_true, ih others]

end Words

section Ascii

variable {c : Char} {word cs : List Char}

theorem isAlphanumeric_ascii (ascii : isAscii c = true) : isAlphanumeric c = c.isAlphanum := by
  simp [isAlphanumeric, isAlphabetic, isNumeric, ascii, Char.isAlphanum]

/-- In ASCII a word does not go from letters to digits or back. -/
theorem adjoins_kind {a b : Char} (first : isAscii a = true) (second : isAscii b = true)
    (one : a.isAlphanum = true) (two : b.isAlphanum = true) (adjoins : Adjoins a b) :
    b.isAlpha = a.isAlpha := by
  obtain ⟨next, inside⟩ := adjoins
  simp only [isBoundary, isAlphabetic, isNumeric, first, second, if_true,
    Bool.or_eq_false_iff] at inside
  simp only [Char.isAlphanum, Bool.or_eq_true] at one two
  obtain ⟨⟨⟨_, letterDigit⟩, digitLetter⟩, _⟩ := inside
  cases left : a.isAlpha <;> cases right : b.isAlpha <;> simp_all

theorem kind_unbroken {a : Char} (chain : (a :: cs).IsChain Adjoins)
    (ascii : ∀ c ∈ a :: cs, isAscii c = true) (shown : ∀ c ∈ a :: cs, c.isAlphanum = true) :
    ∀ c ∈ cs, c.isAlpha = a.isAlpha := by
  induction cs generalizing a with
  | nil => simp
  | cons b rest ih =>
      obtain ⟨first, others⟩ := List.isChain_cons_cons.mp chain
      have same : b.isAlpha = a.isAlpha := adjoins_kind (ascii a (by simp)) (ascii b (by simp))
        (shown a (by simp)) (shown b (by simp)) first
      have tail := ih others (fun c member => ascii c (List.mem_cons_of_mem a member))
        fun c member => shown c (List.mem_cons_of_mem a member)
      rw [← same]
      exact List.forall_mem_cons.mpr ⟨rfl, tail⟩

/-- A word of ASCII letters and digits has only the ones or only the others. -/
theorem Whole.uniform (whole : Whole word) (ascii : ∀ c ∈ word, isAscii c = true) :
    (∀ c ∈ word, c.isAlpha = true) ∨ ∀ c ∈ word, c.isDigit = true := by
  have shown : ∀ c ∈ word, c.isAlphanum = true := by
    intro c member
    rw [← isAlphanumeric_ascii (ascii c member)]
    exact whole.alphanumeric c member
  obtain ⟨a, rest, rfl⟩ := List.exists_cons_of_ne_nil whole.ne_nil
  have alike : ∀ c ∈ a :: rest, c.isAlpha = a.isAlpha :=
    List.forall_mem_cons.mpr ⟨rfl, kind_unbroken whole.unbroken ascii shown⟩
  cases kind : a.isAlpha with
  | true => exact .inl fun c member => (alike c member).trans kind
  | false =>
      right
      intro c member
      have either := shown c member
      rwa [Char.isAlphanum, (alike c member).trans kind, Bool.false_or] at either

theorem lowerFrom_append (ascii : ∀ c ∈ word, isAscii c = true) (before rest : List Char) :
    lowerFrom before (word ++ rest) =
      word.map Char.toLower ++ lowerFrom (word.reverse ++ before) rest := by
  induction word generalizing before with
  | nil => rfl
  | cons c word ih =>
      have first : isAscii c = true := ascii c List.mem_cons_self
      have small : c ≠ 'Σ' := by
        rintro rfl
        cases first
      rw [List.cons_append, lowerFrom, if_neg small, lowerChar, if_pos first,
        ih fun d member => ascii d (List.mem_cons_of_mem c member)]
      simp

theorem lowerFrom_ascii (ascii : ∀ c ∈ word, isAscii c = true) (before : List Char) :
    lowerFrom before word = word.map Char.toLower := by
  have whole := lowerFrom_append ascii before []
  rwa [List.append_nil, lowerFrom, List.append_nil] at whole

/-- Small letters stand together whatever comes after them. -/
theorem isBoundary_lower {a b : Char} (first : a.isLower = true) (second : b.isLower = true)
    (next : Option Char) : isBoundary a b next = false := by
  have upper : a.isUpper = false ∧ b.isUpper = false :=
    ⟨isUpper_of_isLower first, isUpper_of_isLower second⟩
  have digit : a.isDigit = false ∧ b.isDigit = false :=
    ⟨isDigit_of_isAlpha (by simp [isAlpha_eq, first]),
      isDigit_of_isAlpha (by simp [isAlpha_eq, second])⟩
  simp [isBoundary, isUppercase, isNumeric, isAscii_of_isLower first, isAscii_of_isLower second,
    upper, digit]

theorem isBoundary_digit {a b : Char} (first : a.isDigit = true) (second : b.isDigit = true)
    (next : Option Char) : isBoundary a b next = false := by
  have letter : a.isAlpha = false ∧ b.isAlpha = false := by
    constructor
    · by_contra letter
      simp [isDigit_of_isAlpha (Bool.not_eq_false _ ▸ letter)] at first
    · by_contra letter
      simp [isDigit_of_isAlpha (Bool.not_eq_false _ ▸ letter)] at second
  have lower : a.isLower = false ∧ a.isUpper = false := by
    simpa [isAlpha_eq, and_comm] using letter.1
  simp [isBoundary, isLowercase, isUppercase, isAlphabetic, isAscii_of_isDigit first,
    isAscii_of_isDigit second, letter, lower]

/-- A word of ASCII is plain once it is in lower case. -/
theorem Whole.lowered (whole : Whole word) (ascii : ∀ c ∈ word, isAscii c = true) :
    Plain (lowerFrom [] word) := by
  rw [lowerFrom_ascii ascii]
  refine ⟨by simpa using whole.ne_nil, ?_⟩
  rcases whole.uniform ascii with letters | digits
  · left
    intro c member
    obtain ⟨d, inside, rfl⟩ := List.mem_map.mp member
    rw [isLower_toLower]
    exact letters d inside
  · right
    intro c member
    obtain ⟨d, inside, rfl⟩ := List.mem_map.mp member
    have small : ¬ d.isUpper = true := by
      intro upper
      have letter : d.isAlpha = true := by rw [isAlpha_eq, upper, Bool.true_or]
      simpa [digits d inside] using isDigit_of_isAlpha letter
    rw [toLower_eq_self small]
    exact digits d inside

end Ascii

section Joining

variable {word : List Char} {words : List (List Char)}

theorem joinWords_cons (word : List Char) (first : List Char) (words : List (List Char)) :
    joinWords (word :: first :: words) = word ++ '-' :: joinWords (first :: words) := rfl

theorem joinWords_eq (words : List (List Char)) : joinWords words = ['-'].intercalate words := by
  induction words with
  | nil => rfl
  | cons word rest ih =>
      cases rest with
      | nil => simp [joinWords]
      | cons first rest =>
          rw [joinWords_cons, ih, List.intercalate_cons_cons, List.append_assoc,
            List.singleton_append]

namespace Plain

theorem alphanumeric (plain : Plain word) : ∀ c ∈ word, isAlphanumeric c = true := by
  intro c member
  rcases plain.uniform with letters | digits
  · have lower := letters c member
    simp [isAlphanumeric_ascii (isAscii_of_isLower lower), Char.isAlphanum, isAlpha_eq, lower]
  · have digit := digits c member
    simp [isAlphanumeric_ascii (isAscii_of_isDigit digit), Char.isAlphanum, digit]

theorem apart (plain : Plain word) : '-' ∉ word := by
  intro member
  have shown := plain.alphanumeric '-' member
  cases shown

theorem isAscii (plain : Plain word) : ∀ c ∈ word, Text.isAscii c = true := by
  intro c member
  rcases plain.uniform with letters | digits
  · exact isAscii_of_isLower (letters c member)
  · exact isAscii_of_isDigit (digits c member)

theorem lowered (plain : Plain word) : lowerFrom [] word = word := by
  rw [lowerFrom_ascii plain.isAscii]
  refine (List.map_congr_left fun c member => ?_).trans (List.map_id word)
  apply toLower_eq_self
  intro upper
  rcases plain.uniform with letters | digits
  · simp [isUpper_of_isLower (letters c member)] at upper
  · have letter : c.isAlpha = true := by rw [isAlpha_eq, upper, Bool.true_or]
    simpa [digits c member] using isDigit_of_isAlpha letter

theorem single (plain : Plain word) : wordsOfRun word = [word] := by
  have smooth : word.IsChain fun a b => ∀ next, isBoundary a b next = false := by
    apply (List.pairwise_of_forall_mem_list _).isChain
    intro a first b second next
    rcases plain.uniform with letters | digits
    · exact isBoundary_lower (letters a first) (letters b second) next
    · exact isBoundary_digit (digits a first) (digits b second) next
  obtain ⟨c, rest, rfl⟩ := List.exists_cons_of_ne_nil plain.ne_nil
  rw [wordsOfRun_cons, wordsAfter_single smooth]

end Plain

/-- A hyphen ends the run before it. -/
theorem runs_hyphen (plain : Plain word) (rest : List Char) :
    runs (word ++ '-' :: rest) = word :: runs rest := by
  have front : frontRun ('-' :: rest) = ([], runs rest) := rfl
  apply runs_of_front _ plain.ne_nil
  rw [frontRun_append plain.alphanumeric, front, List.append_nil]

/-- Plain words joined by hyphens are the words of the text they make. -/
theorem splitWords_joinWords (each : ∀ word ∈ words, Plain word) :
    splitWords (joinWords words) = words := by
  induction words with
  | nil => rfl
  | cons word rest ih =>
      obtain ⟨plain, others⟩ := List.forall_mem_cons.mp each
      cases rest with
      | nil =>
          rw [joinWords, splitWords, runs_whole plain.alphanumeric plain.ne_nil,
            List.flatMap_singleton, plain.single]
      | cons first rest =>
          rw [joinWords_cons, splitWords, runs_hyphen plain, List.flatMap_cons, plain.single,
            ← splitWords, ih others, List.singleton_append]

theorem filter_joinWords (each : ∀ word ∈ words, Plain word) :
    (joinWords words).filter (· ≠ '-') = words.flatten := by
  induction words with
  | nil => rfl
  | cons word rest ih =>
      obtain ⟨plain, others⟩ := List.forall_mem_cons.mp each
      have kept : word.filter (· ≠ '-') = word := by
        rw [List.filter_eq_self]
        intro c member
        simp only [decide_eq_true_eq]
        rintro rfl
        exact plain.apart member
      cases rest with
      | nil => simpa [joinWords] using kept
      | cons first rest =>
          rw [joinWords_cons, List.filter_append, kept, List.filter_cons_of_neg (by simp),
            List.flatten_cons, ih others]

end Joining

/-- The words of a text in lower case. -/
def wordsOf (s : String) : List (List Char) := (splitWords s.toList).map (lowerFrom [])

theorem toList_kebabCase (s : String) : (kebabCase s).toList = joinWords (wordsOf s) :=
  String.toList_ofList

theorem wordsOf_plain {s : String} (ascii : ∀ c ∈ s.toList, isAscii c = true) :
    ∀ word ∈ wordsOf s, Plain word := by
  intro word member
  obtain ⟨found, inside, rfl⟩ := List.mem_map.mp member
  exact (splitWords_whole inside).lowered fun c here => ascii c (mem_of_splitWords inside here).1

theorem flatten_wordsOf {s : String} (ascii : ∀ c ∈ s.toList, isAscii c = true) :
    (wordsOf s).flatten = (s.toList.filter Char.isAlphanum).map Char.toLower := by
  have lowered : wordsOf s = (splitWords s.toList).map (List.map Char.toLower) := by
    apply List.map_congr_left
    intro word member
    exact lowerFrom_ascii (fun c inside => ascii c (mem_of_splitWords member inside).1) []
  have shown : s.toList.filter isAlphanumeric = s.toList.filter Char.isAlphanum := by
    apply List.filter_congr
    intro c member
    exact isAlphanumeric_ascii (ascii c member)
  rw [lowered, ← List.map_flatten, flatten_splitWords, shown]

/-- Kebab case of ASCII is plain words with single hyphens between them; but for the hyphens it
holds the letters and digits of the text in order and in lower case; and it does not change when
it is taken again. -/
theorem kebabCase_ascii (s : String) (ascii : ∀ c ∈ s.toList, c.toNat < 128) :
    (∃ words, (∀ word ∈ words, Plain word) ∧ (kebabCase s).toList = ['-'].intercalate words) ∧
    (kebabCase s).toList.filter (· ≠ '-') = (s.toList.filter Char.isAlphanum).map Char.toLower ∧
    kebabCase (kebabCase s) = kebabCase s := by
  have within : ∀ c ∈ s.toList, isAscii c = true := by simpa [isAscii] using ascii
  have plain := wordsOf_plain within
  have same : wordsOf (kebabCase s) = wordsOf s := by
    rw [wordsOf, toList_kebabCase, splitWords_joinWords plain]
    refine (List.map_congr_left fun word member => ?_).trans (List.map_id _)
    exact (plain word member).lowered
  refine ⟨⟨wordsOf s, plain, ?_⟩, ?_, ?_⟩
  · rw [toList_kebabCase, joinWords_eq]
  · rw [toList_kebabCase, filter_joinWords plain, flatten_wordsOf within]
  · rw [← String.toList_inj, toList_kebabCase, same, toList_kebabCase]

theorem sample_kebabCase_ascii :
    (∀ c ∈ "bawsRDS2Url--id".toList, c.toNat < 128) ∧
    kebabCase "bawsRDS2Url--id" = "baws-rds-2-url-id" ∧
    kebabCase "baws-rds-2-url-id" = "baws-rds-2-url-id" ∧
    ∃ words, (∀ word ∈ words, Plain word) ∧
      "baws-rds-2-url-id".toList = ['-'].intercalate words := by
  have ascii : ∀ c ∈ "bawsRDS2Url--id".toList, c.toNat < 128 := by simp
  have value : kebabCase "bawsRDS2Url--id" = "baws-rds-2-url-id" := by decide +kernel
  obtain ⟨words, _, again⟩ := kebabCase_ascii "bawsRDS2Url--id" ascii
  rw [value] at words again
  exact ⟨ascii, value, again, words⟩

end Rollout.Kebab
