import Rollout.Proofs.DocumentLines
import Rollout.Proofs.QuotedTexts

/-!
Scalars of one line read back: plain, between single quotes, between double
quotes, and the brackets of an empty list or object. A printed scalar is read
as a value where its line ends, and as a key where a colon stands behind it.
-/

namespace Rollout.Yaml

open Node (ofText)

/-- A text that shows at once that a node is here: it begins no comment, and neither a dash nor
a question mark stands alone in front. -/
inductive Begins : List Char → Prop
  | word {c : Char} {rest : List Char} (visible : isWhite c = false) (comment : c ≠ '#')
      (dash : c ≠ '-') (question : c ≠ '?') : Begins (c :: rest)
  | joined {c next : Char} {rest : List Char} (mark : c = '-' ∨ c = '?')
      (visible : isWhite next = false) : Begins (c :: next :: rest)

/-- The rest of a line, from the blank behind a colon or from its end. -/
def Parts (rest : List Char) : Prop := (rest.head?.map isWhite).getD true = true

/-- A text that is neither blank nor a comment. -/
def Solid (cs : List Char) : Prop := ∃ c rest, cs = c :: rest ∧ isWhite c = false ∧ c ≠ '#'

/-- The rest of a document begins with a line that is less indented. -/
def Stops (indent : Nat) (lines : List Line) : Prop :=
  ∀ line ∈ lines.head?, line.indent < indent ∧ Solid line.content

/-- One line of text that is read as `node` below an indentation. -/
structure Inline (text : List Char) (node : Node) : Prop where
  begins : Begins text
  shown : ∀ c ∈ text, isPrintable c = true ∧ c ≠ '\n'
  unkeyed : readKey text = none
  value : ∀ parent lines, Stops (parent + 1) lines →
    readInline (some parent) text lines = some (node, lines)

/-- One line of text that is also read as `node` where a colon makes it a key. -/
structure Keyed (text : List Char) (node : Node) : Prop extends Inline text node where
  key : ∀ rest, Parts rest → readKey (text ++ ':' :: rest) = some (node, rest)
  unmarked : ∀ rest, isMark (text ++ ':' :: rest) = false

/-- What `readKey` makes of the text behind a key. -/
def keyBefore (node : Node) (rest : List Char) : Option (Node × List Char) :=
  match rest.dropWhile isWhite with
  | ':' :: rest => if (rest.head?.map isWhite).getD true then some (node, rest) else none
  | _ => none

theorem keyBefore_colon (node : Node) {rest : List Char} (parts : Parts rest) :
    keyBefore node (':' :: rest) = some (node, rest) := if_pos parts

namespace Begins

variable {cs : List Char}

theorem append (begins : Begins cs) (tail : List Char) : Begins (cs ++ tail) := by
  cases begins with
  | word visible comment dash question => exact .word visible comment dash question
  | joined mark visible => exact .joined mark visible

theorem solid (begins : Begins cs) : Solid cs := by
  cases begins with
  | word visible comment => exact ⟨_, _, rfl, visible, comment⟩
  | joined mark visible =>
      refine ⟨_, _, rfl, ?_⟩
      rcases mark with rfl | rfl <;> decide

theorem unmarked (begins : Begins cs) (indent : Nat) {mark : Char}
    (known : mark = '-' ∨ mark = '?') : (Line.mk indent cs).isMarked mark = false := by
  cases begins with
  | word visible comment dash question =>
      rcases known with rfl | rfl
      · simp [Line.isMarked, dash]
      · simp [Line.isMarked, question]
  | joined _ visible => simp [Line.isMarked, visible]

end Begins

section Quoted

/-- The text of a line with the lines below goes on with a break, or ends. -/
theorem joined_tail (text : List Char) (lines : List Line) :
    ∃ tail, ['\n'].intercalate (text :: lines.map Line.content) = text ++ tail ∧
      (tail = [] ∨ ∃ below, tail = '\n' :: below) := by
  cases lines with
  | nil => exact ⟨[], by simp, .inl rfl⟩
  | cons line lines =>
      refine ⟨'\n' :: ['\n'].intercalate ((line :: lines).map Line.content), ?_, .inr ⟨_, rfl⟩⟩
      rw [List.map_cons, List.intercalate_cons_cons, List.append_assoc, List.singleton_append]

theorem readSpanning_line {read : List Char → Option (Node × List Char)} {text : List Char}
    {node : Node} (unbroken : '\n' ∉ text)
    (reads : ∀ tail, (tail = [] ∨ ∃ below, tail = '\n' :: below) →
      read (text ++ tail) = some (node, tail)) (lines : List Line) :
    readSpanning read text lines = some (node, lines) := by
  obtain ⟨tail, joined, ends⟩ := joined_tail text lines
  have ended : tail.takeWhile (· != '\n') = [] := by
    rcases ends with rfl | ⟨below, rfl⟩ <;> rfl
  have taken : (text ++ tail).take ((text ++ tail).length - tail.length) = text := by
    rw [List.length_append, Nat.add_sub_cancel, List.take_left]
  have none : countBreaks text = 0 := by
    rw [countBreaks, List.countP_eq_zero]
    intro c member same
    rw [beq_iff_eq] at same
    exact unbroken (same ▸ member)
  rw [readSpanning, joined, reads tail ends]
  simp only [Option.bind_eq_bind, Option.bind_some, ended, taken, none, List.drop_zero]
  rfl

variable {text cs : List Char}

theorem keyed_of_quoted (quote : text.head? = some '"' ∨ text.head? = some '\'')
    (shown : ∀ c ∈ text, isPrintable c = true ∧ c ≠ '\n')
    (reads : ∀ tail, tail.head? ≠ some '\'' → readQuoted (text ++ tail) = some (cs, tail)) :
    Keyed text (.scalar false (String.ofList cs)) := by
  obtain ⟨c, rest, rfl⟩ : ∃ c rest, text = c :: rest := by
    cases text with
    | nil => rcases quote with impossible | impossible <;> cases impossible
    | cons c rest => exact ⟨c, rest, rfl⟩
  have known : c = '"' ∨ c = '\'' := by simpa using quote
  have asKey (tail : List Char) (apart : tail.head? ≠ some '\'') :
      readKey (c :: rest ++ tail) = keyBefore (.scalar false (String.ofList cs)) tail := by
    rw [readKey, if_pos (by simpa using known), reads tail apart]
    rfl
  have asValue (parent : Nat) (lines : List Line) : readInline (some parent) (c :: rest) lines =
      some (.scalar false (String.ofList cs), lines) := by
      have scalar : readInline (some parent) (c :: rest) lines =
          readSpanning readFlowScalar (c :: rest) lines := by
        rcases known with rfl | rfl <;> rfl
      rw [scalar]
      apply readSpanning_line fun member => (shown _ member).2 rfl
      intro tail ends
      have apart : tail.head? ≠ some '\'' := by
        rcases ends with rfl | ⟨below, rfl⟩ <;> simp
      rw [readFlowScalar, if_pos (by simpa using known), reads tail apart]
      rfl
  refine ⟨⟨?_, shown, ?_, fun parent lines _ => asValue parent lines⟩, ?_, ?_⟩
  · rcases known with rfl | rfl <;> exact .word (by decide) (by decide) (by decide) (by decide)
  · have ended := asKey [] (by simp)
    rwa [List.append_nil] at ended
  · intro tail parts
    rw [asKey (':' :: tail) (by simp), keyBefore_colon _ parts]
  · intro tail
    rcases known with rfl | rfl <;> simp [isMark]

theorem keyed_single (unbroken : '\n' ∉ cs) (printable : ∀ c ∈ cs, isPrintable c = true) :
    Keyed ('\'' :: cs.flatMap escapeSingle ++ ['\'']) (.scalar false (String.ofList cs)) := by
  apply keyed_of_quoted (.inr rfl)
  · intro c member
    simp only [List.cons_append, List.mem_cons, List.mem_append, List.mem_flatMap,
      List.not_mem_nil, or_false] at member
    have quote : isPrintable '\'' = true ∧ '\'' ≠ '\n' := by decide
    rcases member with rfl | ⟨d, inside, member⟩ | rfl
    · exact quote
    · unfold escapeSingle at member
      split at member
      · have same : c = '\'' := by simpa using member
        exact same ▸ quote
      · have same : c = d := by simpa using member
        subst same
        exact ⟨printable c inside, fun same => unbroken (same ▸ inside)⟩
    · exact quote
  · intro tail apart
    have each : ∀ c, escapeSingle c ≠ [] := by
      intro c
      unfold escapeSingle
      split <;> simp
    have enough := length_le_quoted each cs
    rw [List.cons_append, List.cons_append, readQuoted, List.append_assoc, List.singleton_append,
      readSingle_flatMap unbroken _ apart]
    · rfl
    · simp only [List.length_append, List.length_cons]
      omega

theorem keyed_double (cs : List Char) :
    Keyed ('"' :: cs.flatMap escapeDouble ++ ['"']) (.scalar false (String.ofList cs)) := by
  apply keyed_of_quoted (.inl rfl)
  · intro c member
    simp only [List.cons_append, List.mem_cons, List.mem_append, List.mem_flatMap,
      List.not_mem_nil, or_false] at member
    have quote : isPrintable '"' = true ∧ '"' ≠ '\n' := by decide
    rcases member with rfl | ⟨d, inside, member⟩ | rfl
    · exact quote
    · exact (escaped d).shown c member
    · exact quote
  · intro tail _
    have enough := length_le_quoted (fun c => (escaped c).ne_nil) cs
    rw [List.cons_append, List.cons_append, readQuoted, List.append_assoc, List.singleton_append,
      readDouble_flatMap]
    · rfl
    · simp only [List.length_append, List.length_cons]
      omega

end Quoted

section Plain

variable {cs : List Char}

/-- A text that may be written as it is. -/
structure Bare (cs : List Char) : Prop where
  nonempty : cs ≠ []
  allowed : allowsPlain cs = true

theorem isMark_colon (unmarked : isMark cs = false) (rest : List Char) :
    isMark (cs ++ ':' :: rest) = false := by
  match cs with
  | [] => rfl
  | [_] => simp [isMark]
  | [_, _] => simp [isMark]
  | _ :: _ :: _ :: _ => exact unmarked

theorem joins_of_endsWord {c : Option Char} (goesOn : endsWord c = false) :
    ∃ next, c = some next ∧ isWhite next = false ∧ next ≠ '\n' := by
  cases c with
  | none => cases goesOn
  | some next =>
      simp only [endsWord, Bool.or_eq_false_iff] at goesOn
      refine ⟨next, rfl, by simp [isWhite, goesOn], ?_⟩
      rintro rfl
      simp [isBreak] at goesOn

theorem plainChars_tail (before : Char) {tail : List Char}
    (ends : tail = [] ∨ ∃ rest, tail = ':' :: rest ∧ Parts rest) :
    plainChars false before tail = [] := by
  rcases ends with rfl | ⟨rest, rfl, parts⟩
  · rfl
  · cases rest with
    | nil => simp [plainChars]
    | cons next rest =>
        have white : isWhite next = true := parts
        simp [plainChars, white]

/-- A plain scalar is taken whole, up to the end of its line or a colon that stands alone. -/
theorem plainChars_append {before : Char} (clear : hasIndicator before cs = false)
    (unbroken : '\n' ∉ cs) {tail : List Char}
    (ends : tail = [] ∨ ∃ rest, tail = ':' :: rest ∧ Parts rest) :
    plainChars false before (cs ++ tail) = cs := by
  induction cs generalizing before with
  | nil => exact plainChars_tail before ends
  | cons c cs ih =>
      simp only [hasIndicator, Bool.or_eq_false_iff] at clear
      obtain ⟨⟨colon, comment⟩, later⟩ := clear
      have here : c ≠ '\n' := fun same => unbroken (by simp [same])
      have rest := ih later fun member => unbroken (List.mem_cons_of_mem c member)
      have word : (c == '#' && isWhite before) = false := by
        rw [Bool.and_eq_false_iff] at comment ⊢
        refine comment.imp_right fun apart => ?_
        obtain ⟨_, ⟨⟩, visible, _⟩ := joins_of_endsWord apart
        exact visible
      rw [List.cons_append, plainChars, rest]
      simp only [beq_eq_false_iff_ne.mpr here, word, Bool.false_and, Bool.or_false,
        Bool.false_eq_true, if_false]
      split
      · rename_i same
        rw [same, Bool.true_and] at colon
        obtain ⟨next, found, visible, within⟩ := joins_of_endsWord colon
        obtain ⟨more, rfl⟩ := List.head?_eq_some_iff.mp found
        simp [visible, within]
      · rfl

namespace Bare

variable {c : Char} {rest : List Char}

theorem apart (bare : Bare cs) : bordered cs = false ∧ isFragile cs = false ∧
    cs.any isBreak = false ∧ hasIndicators cs = false := by
  simpa [allowsPlain, and_assoc] using bare.allowed

theorem shown (bare : Bare cs) : ∀ c ∈ cs, isPrintable c = true ∧ c ≠ '\n' := by
  obtain ⟨_, fragile, breaks, _⟩ := bare.apart
  simp only [isFragile, Bool.or_eq_false_iff, List.any_eq_false] at fragile breaks
  intro c member
  have printable := fragile.2 c member
  refine ⟨by simpa using printable, ?_⟩
  rintro rfl
  exact breaks _ member rfl

theorem visible_of_inner (bare : Bare cs) (member : c ∈ cs) (inner : isSpace c = false) :
    isWhite c = false := by
  have printable := (bare.shown c member).1
  have tab : c ≠ '\t' := by
    rintro rfl
    cases printable
  simp only [isSpace, beq_eq_false_iff_ne] at inner
  simp [isWhite, inner, tab]

theorem first (bare : Bare (c :: rest)) : isWhite c = false ∧
    opensIndicator c rest.head? = false ∧ hasIndicator c rest = false := by
  obtain ⟨borders, _, _, indicators⟩ := bare.apart
  simp only [bordered, hasIndicators, Bool.or_eq_false_iff, List.head?_cons, Option.map_some,
    Option.getD_some] at borders indicators
  exact ⟨bare.visible_of_inner (List.mem_cons_self ..) borders.1.1, indicators.1.2, indicators.2⟩

theorem trimmed (bare : Bare cs) : trimWhite cs = cs := by
  obtain ⟨borders, _⟩ := bare.apart
  have last := cs.dropLast_append_getLast bare.nonempty
  have inner : isSpace (cs.getLast bare.nonempty) = false := by
    simp only [bordered, Bool.or_eq_false_iff, List.getLast?_eq_some_getLast bare.nonempty,
      Option.map_some, Option.getD_some] at borders
    exact borders.2.1
  have visible := bare.visible_of_inner (List.getLast_mem bare.nonempty) inner
  rw [← last, trimWhite, trimEnd, List.reverse_append, List.reverse_singleton,
    List.singleton_append, List.dropWhile_cons_of_neg (by simp [visible])]
  simp

theorem unmarked (bare : Bare cs) : isMark cs = false := by
  obtain ⟨c, rest, rfl⟩ := List.exists_cons_of_ne_nil bare.nonempty
  obtain ⟨_, _, _, indicators⟩ := bare.apart
  simp only [hasIndicators, Bool.or_eq_false_iff] at indicators
  exact indicators.1.1

/-- The first character is no indicator, and goes on in a word if it could be a mark. -/
theorem opens (bare : Bare (c :: rest)) : "#,[]\x7b\x7d&*!|>'\"%@`".toList.contains c = false ∧
    (['?', ':', '-'].contains c = true →
      ∃ next, rest.head? = some next ∧ isWhite next = false ∧ next ≠ '\n') := by
  have opens := bare.first.2.1
  rw [opensIndicator, Bool.or_eq_false_iff] at opens
  refine ⟨opens.1, fun mark => joins_of_endsWord ?_⟩
  simpa only [mark, Bool.true_and] using opens.2

theorem begins (bare : Bare cs) : Begins cs := by
  obtain ⟨c, rest, rfl⟩ := List.exists_cons_of_ne_nil bare.nonempty
  obtain ⟨listed, joins⟩ := bare.opens
  have comment : c ≠ '#' := by
    rintro rfl
    cases listed
  by_cases mark : c = '-' ∨ c = '?'
  · -- The mark of an item or a key stands alone, and this one is part of a word.
    obtain ⟨next, found, visible, _⟩ := joins (by rcases mark with rfl | rfl <;> rfl)
    obtain ⟨more, rfl⟩ := List.head?_eq_some_iff.mp found
    exact .joined mark visible
  · rw [not_or] at mark
    exact .word bare.first.1 comment mark.1 mark.2

theorem starts (bare : Bare cs) (tail : List Char) : startsPlain (cs ++ tail) = true := by
  obtain ⟨c, rest, rfl⟩ := List.exists_cons_of_ne_nil bare.nonempty
  obtain ⟨listed, joins⟩ := bare.opens
  rw [List.cons_append, startsPlain, if_neg (by simp [bare.first.1])]
  split
  · rename_i mark
    obtain ⟨next, found, visible, within⟩ := joins (by simp_all [or_comm, or_assoc])
    obtain ⟨more, rfl⟩ := List.head?_eq_some_iff.mp found
    simp [visible, within]
  · rw [listed]
    rfl

/-- Before a text there is a blank, or nothing that would matter. -/
theorem clear (bare : Bare cs) (before : Char) : hasIndicator before cs = false := by
  obtain ⟨c, rest, rfl⟩ := List.exists_cons_of_ne_nil bare.nonempty
  obtain ⟨listed, joins⟩ := bare.opens
  have comment : (c == '#') = false := by
    rw [beq_eq_false_iff_ne]
    rintro rfl
    cases listed
  simp only [hasIndicator, comment, bare.first.2.2, Bool.false_and, Bool.or_false]
  by_cases colon : c = ':'
  · subst colon
    have opens := bare.first.2.1
    rw [opensIndicator, Bool.or_eq_false_iff] at opens
    exact opens.2
  · simp [colon]

end Bare

theorem moreLines_stops {parent : Nat} {lines : List Line} (stops : Stops (parent + 1) lines) :
    moreLines (some parent) lines = ([], lines) := by
  cases lines with
  | nil => rfl
  | cons line lines =>
      obtain ⟨above, c, rest, content, visible, _⟩ := stops line rfl
      have deeper : ¬ parent < line.indent := by omega
      simp [moreLines, content, visible, deeper]

theorem keyed_plain (bare : Bare cs) : Keyed cs (.scalar true (String.ofList cs)) := by
  have unbroken : '\n' ∉ cs := fun member => (bare.shown _ member).2 rfl
  obtain ⟨c, rest, same⟩ := List.exists_cons_of_ne_nil bare.nonempty
  -- None of the other styles begins as this text does.
  have plain : ∀ mark ∈ ['"', '\'', '[', '\x7b', '|', '>'], c ≠ mark := by
    have listed : ∀ mark ∈ ['"', '\'', '[', '\x7b', '|', '>'],
        "#,[]\x7b\x7d&*!|>'\"%@`".toList.contains mark = true :=
      List.all_eq_true.mp (by decide)
    rintro mark member rfl
    subst same
    have unlisted := bare.opens.1
    rw [listed c member] at unlisted
    cases unlisted
  simp only [List.mem_cons, List.not_mem_nil, or_false, forall_eq_or_imp, forall_eq] at plain
  obtain ⟨double, single, bracket, brace, literal, folded⟩ := plain
  have taken (before : Char) (tail : List Char)
      (ends : tail = [] ∨ ∃ rest, tail = ':' :: rest ∧ Parts rest) :
      plainChars false before (cs ++ tail) = cs :=
    plainChars_append (bare.clear before) unbroken ends
  have asKey (tail : List Char) (ends : tail = [] ∨ ∃ rest, tail = ':' :: rest ∧ Parts rest) :
      readKey (cs ++ tail) = keyBefore (.scalar true (String.ofList cs)) tail := by
    rw [readKey, if_neg (by simp [same, double, single]), if_pos (bare.starts tail),
      taken 'x' tail ends]
    simp only [bare.trimmed, List.drop_left]
    rfl
  have asValue (parent : Nat) (lines : List Line) (stops : Stops (parent + 1) lines) :
      readInline (some parent) cs lines = some (.scalar true (String.ofList cs), lines) := by
    have chars := taken ' ' [] (.inl rfl)
    have starts := bare.starts []
    rw [List.append_nil] at chars starts
    have line : plainLine cs = some cs := by simp [plainLine, chars, bare.trimmed]
    have read : readPlain (some parent) cs lines =
        some (.scalar true (String.ofList cs), lines) := by
      simp [readPlain, starts, line, moreLines_stops stops, foldPieces]
    subst same
    simp [readInline, read, double, single, bracket, brace, literal, folded]
  refine ⟨⟨bare.begins, bare.shown, ?_, asValue⟩, ?_, isMark_colon bare.unmarked⟩
  · have ended := asKey [] (.inl rfl)
    rwa [List.append_nil] at ended
  · intro tail parts
    rw [asKey (':' :: tail) (.inr ⟨tail, rfl, parts⟩), keyBefore_colon _ parts]

end Plain

section Numbers

/-- A character that means nothing to a reader of YAML, but for a dash in front. -/
def isInert (c : Char) : Bool :=
  isPrintable c && !isSpace c && !isBreak c && c != ':' && c != '#'

variable {cs : List Char}

theorem hasIndicator_inert (inert : ∀ c ∈ cs, isInert c = true) (before : Char) :
    hasIndicator before cs = false := by
  induction cs generalizing before with
  | nil => rfl
  | cons c cs ih =>
      have here := inert c (List.mem_cons_self ..)
      simp only [isInert, Bool.and_eq_true, bne_iff_ne] at here
      have later := ih (fun d member => inert d (List.mem_cons_of_mem c member)) c
      simp [hasIndicator, here, later]

theorem adjacent_spaceless (inert : ∀ c ∈ cs, isInert c = true) :
    adjacent isSpace isBreak cs = false := by
  induction cs with
  | nil => rfl
  | cons c cs ih =>
      have here := inert c (List.mem_cons_self ..)
      simp only [isInert, Bool.and_eq_true, Bool.not_eq_true'] at here
      have later := ih fun d member => inert d (List.mem_cons_of_mem c member)
      cases cs with
      | nil => rfl
      | cons next cs => simp [adjacent, here, later]

theorem bare_of_inert {c : Char} {rest : List Char} (inert : ∀ d ∈ c :: rest, isInert d = true)
    (unmarked : isMark (c :: rest) = false)
    (opens : opensIndicator c rest.head? = false) : Bare (c :: rest) := by
  have each (d : Char) (member : d ∈ c :: rest) :
      isPrintable d = true ∧ isSpace d = false ∧ isBreak d = false := by
    have here := inert d member
    simp only [isInert, Bool.and_eq_true, Bool.not_eq_true'] at here
    exact ⟨here.1.1.1.1, here.1.1.1.2, here.1.1.2⟩
  have last := each _ (List.getLast_mem (List.cons_ne_nil c rest))
  have first := each c (List.mem_cons_self ..)
  have borders : bordered (c :: rest) = false := by
    simp [bordered, List.getLast?_eq_some_getLast, first, last]
  have breaks : (c :: rest).any isBreak = false := by
    rw [List.any_eq_false]
    exact fun d member => by simp [each d member]
  have fragile : isFragile (c :: rest) = false := by
    rw [isFragile, adjacent_spaceless inert, Bool.false_or, List.any_eq_false]
    exact fun d member => by simp [each d member]
  have indicators : hasIndicators (c :: rest) = false := by
    rw [isMark] at unmarked
    rw [hasIndicators, unmarked, opens,
      hasIndicator_inert fun d member => inert d (List.mem_cons_of_mem c member)]
    rfl
  exact ⟨List.cons_ne_nil c rest, by rw [allowsPlain, borders, fragile, breaks, indicators]; rfl⟩

theorem digit_inert {n : Nat} {c : Char} (member : c ∈ Nat.toDigits 10 n) : isInert c = true ∧
    c ≠ '-' ∧ c ≠ '.' ∧ endsWord (some c) = false ∧ ∀ next, opensIndicator c next = false := by
  have each : ∀ d < 10, isInert (Nat.digitChar d) = true ∧ Nat.digitChar d ≠ '-' ∧
      Nat.digitChar d ≠ '.' ∧ endsWord (some (Nat.digitChar d)) = false ∧
      "#,[]\x7b\x7d&*!|>'\"%@`".toList.contains (Nat.digitChar d) = false ∧
      ['?', ':', '-'].contains (Nat.digitChar d) = false := by decide
  obtain ⟨d, small, rfl⟩ := mem_toDigits (by decide) member
  obtain ⟨inert, dash, dot, word, listed, mark⟩ := each d small
  exact ⟨inert, dash, dot, word, fun next => by rw [opensIndicator, listed, mark]; rfl⟩

theorem bare_printInt (n : Int) : Bare (Json.printInt n) := by
  obtain ⟨c, rest, printed⟩ :=
    List.exists_cons_of_ne_nil (Nat.toDigits_ne_nil (b := 10) (n := n.natAbs))
  have digit (d : Char) (member : d ∈ c :: rest) := digit_inert (printed ▸ member)
  obtain ⟨_, dash, dot, word, opens⟩ := digit c (List.mem_cons_self ..)
  rw [Json.printInt, printed]
  split
  · apply bare_of_inert
    · rintro d (_ | ⟨_, member⟩)
      · rfl
      · exact (digit d member).1
    · simp [isMark, dash]
    · simp only [opensIndicator, List.head?_cons, word, Bool.and_false, Bool.or_false]
      decide
  · apply bare_of_inert
    · exact fun d member => (digit d member).1
    · simp [isMark, dash, dot]
    · exact opens _

end Numbers

section Written

theorem readFlow_brackets {text : List Char} {node : Node}
    (empty : text = ['[', ']'] ∧ node = .sequence [] ∨ text = ['\x7b', '\x7d'] ∧ node = .mapping [])
    (tail : List Char) :
    readFlow ((text ++ tail).length + 1) (text ++ tail) = some (node, tail) := by
  rcases empty with ⟨rfl, rfl⟩ | ⟨rfl, rfl⟩ <;> rfl

theorem inline_brackets {text : List Char} {node : Node}
    (empty : text = ['[', ']'] ∧ node = .sequence [] ∨
      text = ['\x7b', '\x7d'] ∧ node = .mapping []) : Inline text node := by
  have asValue (parent : Nat) (lines : List Line) :
      readInline (some parent) text lines = some (node, lines) := by
    have flow : readInline (some parent) text lines =
        readSpanning (fun cs => readFlow (cs.length + 1) cs) text lines := by
      rcases empty with ⟨rfl, _⟩ | ⟨rfl, _⟩ <;> rfl
    rw [flow]
    apply readSpanning_line
    · rcases empty with ⟨rfl, _⟩ | ⟨rfl, _⟩ <;> decide
    · intro tail _
      exact readFlow_brackets empty tail
  refine ⟨?_, ?_, ?_, fun parent lines _ => asValue parent lines⟩
  · rcases empty with ⟨rfl, _⟩ | ⟨rfl, _⟩ <;>
      exact .word (by decide) (by decide) (by decide) (by decide)
  · apply shown_of_all
    rcases empty with ⟨rfl, _⟩ | ⟨rfl, _⟩ <;> decide
  · rcases empty with ⟨rfl, _⟩ | ⟨rfl, _⟩ <;> rfl

theorem bare_of_style {s : String} (plain : Style.ofText s = .plain) : Bare s.toList := by
  unfold Style.ofText at plain
  simp only at plain
  split at plain
  · split at plain <;> cases plain
  · split at plain
    · split at plain <;> cases plain
    · rename_i safe
      rw [Bool.or_eq_true, not_or, Bool.not_eq_true', Bool.not_eq_false] at safe
      refine ⟨?_, safe.2⟩
      intro empty
      rw [String.toList_eq_nil_iff] at empty
      subst empty
      exact safe.1 rfl

theorem single_of_style {s : String} (single : Style.ofText s = .singleQuoted) :
    '\n' ∉ s.toList ∧ ∀ c ∈ s.toList, isPrintable c = true := by
  unfold Style.ofText at single
  simp only at single
  split at single
  · split at single <;> cases single
  · rename_i unbroken
    split at single
    · split at single
      · rename_i allowed
        simp only [allowsSingle, isFragile, Bool.not_or, Bool.and_eq_true, Bool.not_eq_true',
          List.any_eq_false] at allowed
        refine ⟨by simpa using unbroken, fun c member => ?_⟩
        simpa using allowed.1.2 c member
      · cases single
    · cases single

/-- Texts that are not written as blocks take one line, and can be keys. -/
theorem keyed_text {s : String} (line : Style.ofText s ≠ .literal) (indent : Nat) :
    Keyed (printText (.ofText s) indent s) (ofText s) := by
  have node : ofText s = .scalar (Style.ofText s == .plain) (String.ofList s.toList) := by
    rw [String.ofList_toList, ofText]
  rw [node]
  cases style : Style.ofText s with
  | plain => exact keyed_plain (bare_of_style style)
  | singleQuoted =>
      obtain ⟨unbroken, printable⟩ := single_of_style style
      exact keyed_single unbroken printable
  | doubleQuoted => exact keyed_double s.toList
  | literal => exact absurd style line

theorem line_of_simpleKey {key : String} (simple : isSimpleKey key = true) :
    Style.ofText key ≠ .literal := by
  rw [isSimpleKey, Bool.and_eq_true, Bool.not_eq_true', List.any_eq_false] at simple
  have unbroken : key.toList.contains '\n' = false := by
    rw [List.contains_eq_mem, decide_eq_false_iff_not]
    exact fun member => simple.2 _ member rfl
  unfold Style.ofText
  simp only [unbroken, Bool.false_eq_true, if_false]
  split
  · split <;> simp
  · simp

theorem inline_word {value : Json}
    (word : value = .null ∨ (∃ b, value = .bool b) ∨ ∃ n, value = .number (.int n)) (indent : Nat) :
    Inline (printScalar indent value) (Node.ofJson value) := by
  rcases word with rfl | ⟨b, rfl⟩ | ⟨n, rfl⟩
  · have bare : Bare ['n', 'u', 'l', 'l'] := ⟨by simp, by decide⟩
    exact (keyed_plain bare).toInline
  · cases b with
    | true =>
        have bare : Bare ['t', 'r', 'u', 'e'] := ⟨by simp, by decide⟩
        exact (keyed_plain bare).toInline
    | false =>
        have bare : Bare ['f', 'a', 'l', 's', 'e'] := ⟨by simp, by decide⟩
        exact (keyed_plain bare).toInline
  · exact (keyed_plain (bare_printInt n)).toInline

end Written

end Rollout.Yaml
