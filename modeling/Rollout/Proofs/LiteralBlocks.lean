import Mathlib.Data.List.TakeWhile
import Rollout.Proofs.DocumentLines
import Rollout.Proofs.ScalarTexts

/-!
Texts of several lines read back from the block they are written as. A block
holds the pieces between the breaks; the hints in its header tell how far it is
indented where its first line would not show that, and which breaks end it.
-/

namespace Rollout.Yaml

open Node (ofText)

section Reading

/-- A line of a block; empty lines are not indented. -/
def indented (indent : Nat) (piece : List Char) : List Char :=
  if piece.isEmpty then [] else blanks indent ++ piece

theorem replicate_dropWhile (piece : List Char) :
    List.replicate (piece.length - (piece.dropWhile isSpace).length) ' ' ++
      piece.dropWhile isSpace = piece := by
  induction piece with
  | nil => rfl
  | cons c piece ih =>
      by_cases space : c = ' '
      · subst space
        have shorter := (List.dropWhile_suffix isSpace (l := piece)).length_le
        rw [List.dropWhile_cons_of_pos rfl, List.length_cons, Nat.succ_sub shorter,
          List.replicate_succ, List.cons_append, ih]
      · rw [List.dropWhile_cons_of_neg (by simp [isSpace, space]), Nat.sub_self]
        rfl

theorem takeBlock_rows {indent : Nat} {block : List (List Char)}
    (solid : ∀ piece ∈ block, piece ≠ [] → piece.dropWhile isSpace ≠ []) {rest : List Line}
    (stops : Stops indent rest) :
    takeBlock indent (block.map (fun piece => Line.ofChars (indented indent piece)) ++ rest) =
      (block, rest) := by
  induction block with
  | nil =>
      cases rest with
      | nil => rfl
      | cons line rest =>
          -- The line behind a block is further left and not empty.
          obtain ⟨above, c, cs, content, _⟩ := stops line rfl
          have shallow : ¬ indent ≤ line.indent := by omega
          simp [takeBlock, content, shallow]
  | cons piece block ih =>
      have later := ih fun other member => solid other (List.mem_cons_of_mem piece member)
      rw [List.map_cons, List.cons_append, takeBlock, later]
      by_cases empty : piece = []
      · subst empty
        simp [indented, Line.ofChars]
      · have here := solid piece (List.mem_cons_self ..) empty
        have row : Line.ofChars (indented indent piece) =
            ⟨indent + (piece.length - (piece.dropWhile isSpace).length),
              piece.dropWhile isSpace⟩ := by
          rw [indented, if_neg (by simpa using empty), ofChars_blanks]
        simp [row, here, replicate_dropWhile]

/-- What a block says: its pieces, and as many of the breaks at its end as are kept. -/
def blockText (ending : Ending) (block : List (List Char)) : List Char :=
  let kept := dropBlankEnd block
  let dropped := block.length - kept.length
  match ending with
  | .strip => ['\n'].intercalate kept
  | .clip => if kept.isEmpty then [] else ['\n'].intercalate kept ++ ['\n']
  | .keep => ['\n'].intercalate kept ++
      List.replicate (if kept.isEmpty then dropped else dropped + 1) '\n'

theorem dropBlankEnd_blank (block : List (List Char)) :
    dropBlankEnd (block ++ [[]]) = dropBlankEnd block := by
  simp [dropBlankEnd]

theorem dropBlankEnd_solid (block : List (List Char)) {last : List Char} (solid : last ≠ []) :
    dropBlankEnd (block ++ [last]) = block ++ [last] := by
  simp [dropBlankEnd, solid]

theorem length_dropBlankEnd (block : List (List Char)) :
    (dropBlankEnd block).length ≤ block.length := by
  have shorter := (List.dropWhile_suffix List.isEmpty (l := block.reverse)).length_le
  rw [List.length_reverse] at shorter
  rwa [dropBlankEnd, List.length_reverse]

theorem blockText_strip (pieces : List (List Char)) {last : List Char} (solid : last ≠ []) :
    blockText .strip (pieces ++ [last]) = broken pieces ++ last := by
  rw [blockText, dropBlankEnd_solid pieces solid]
  exact intercalate_pieces pieces last

theorem blockText_clip (pieces : List (List Char)) {last : List Char} (solid : last ≠ []) :
    blockText .clip (pieces ++ [last]) = broken (pieces ++ [last]) := by
  rw [blockText, dropBlankEnd_solid pieces solid]
  simp [intercalate_pieces, broken_append, broken_singleton]

theorem blockText_keep (block : List (List Char)) : blockText .keep block = broken block := by
  induction block using List.reverseRecOn with
  | nil => rfl
  | append_singleton pieces last ih =>
      by_cases blank : last = []
      · -- One more empty line is one more break at the end.
        subst blank
        have shorter := length_dropBlankEnd pieces
        have more : (pieces ++ [[]]).length - (dropBlankEnd pieces).length =
            pieces.length - (dropBlankEnd pieces).length + 1 := by
          rw [List.length_append, List.length_singleton]
          omega
        simp only [blockText] at ih
        simp only [blockText, dropBlankEnd_blank, more]
        rw [broken_append, ← ih, broken_singleton, List.nil_append]
        split
        · rw [List.replicate_succ', List.append_assoc]
        · rw [List.replicate_succ', List.append_assoc]
      · simp only [blockText, dropBlankEnd_solid pieces blank]
        simp [intercalate_pieces, broken_append, broken_singleton]

/-- The block is found at its indentation where the header gives it, or where its first line
shows it. -/
theorem readBlockScalar_rows {parent : Nat} (header : BlockHeader) (literal : header.folds = false)
    {block : List (List Char)}
    (found : header.indent = some 2 ∨ header.indent = none ∧ ∃ c rest more,
      block = (c :: rest) :: more ∧ isSpace c = false)
    (solid : ∀ piece ∈ block, piece ≠ [] → piece.dropWhile isSpace ≠ []) {rest : List Line}
    (stops : Stops (parent + 1) rest) :
    readBlockScalar (some parent) header
        (block.map (fun piece => Line.ofChars (indented (parent + 2) piece)) ++ rest) =
      (.scalar false (String.ofList (blockText header.ending block)), rest) := by
  have below : Stops (parent + 2) rest := fun line first =>
    ⟨Nat.lt_succ_of_lt (stops line first).1, (stops line first).2⟩
  obtain ⟨folds, hint, ending⟩ := header
  simp only at literal found
  subst literal
  rcases found with rfl | ⟨rfl, c, text, more, rfl, visible⟩
  · simp only [readBlockScalar, Option.getD_some, takeBlock_rows solid below]
    cases ending <;> rfl
  · have first : Line.ofChars (indented (parent + 2) (c :: text)) = ⟨parent + 2, c :: text⟩ := by
      rw [indented, if_neg (by simp), ofChars_blanks,
        List.dropWhile_cons_of_neg (by simp [visible]), Nat.sub_self, Nat.add_zero]
    have taken := takeBlock_rows solid below
    rw [List.map_cons, List.cons_append, first] at taken ⊢
    have indent : max (parent + 1) (parent + 2) = parent + 2 := by omega
    simp only [readBlockScalar, Option.getD_some, Option.map_some, List.find?_cons,
      List.isEmpty_cons, Bool.not_false, indent, taken]
    cases ending <;> rfl

end Reading

section Headers

variable {cs : List Char}

/-- What the header tells of the indentation. -/
def hintOf (cs : List Char) : Option Nat :=
  if (cs.head?.map fun c => isSpace c || isBreak c).getD false then some 2 else none

/-- How a text ends, as the header tells. -/
def endingOf (cs : List Char) : Ending :=
  match cs.reverse with
  | '\n' :: before :: _ => if isBreak before then .keep else .clip
  | ['\n'] => .keep
  | _ => .strip

theorem blockHints_cases (cs : List Char) : ∃ front back, blockHints cs = front ++ back ∧
    (front, hintOf cs) ∈ [([], none), (['2'], some 2)] ∧
    (back, endingOf cs) ∈ [([], Ending.clip), (['+'], .keep), (['-'], .strip)] := by
  refine ⟨_, _, rfl, ?_, ?_⟩
  · unfold hintOf
    cases cs with
    | nil => simp
    | cons c cs => by_cases hidden : isSpace c || isBreak c <;> simp [hidden]
  · unfold endingOf
    split
    · split <;> simp_all
    · simp_all
    · simp_all

theorem header_read (cs : List Char) :
    BlockHeader.read ('|' :: blockHints cs) = some ⟨false, hintOf cs, endingOf cs⟩ := by
  have each : ∀ front ∈ [([], none), (['2'], some 2)],
      ∀ back ∈ [([], Ending.clip), (['+'], .keep), (['-'], .strip)],
        BlockHeader.read ('|' :: (front.1 ++ back.1)) = some ⟨false, front.2, back.2⟩ := by decide
  obtain ⟨front, back, hints, known, ends⟩ := blockHints_cases cs
  rw [hints]
  exact each _ known _ ends

theorem blockHints_shown (cs : List Char) :
    ∀ c ∈ '|' :: blockHints cs, isPrintable c = true ∧ c ≠ '\n' := by
  have each : ∀ front ∈ [([], none), (['2'], some 2)],
      ∀ back ∈ [([], Ending.clip), (['+'], .keep), (['-'], .strip)],
        (('|' :: (front.1 ++ back.1)).all fun c => isPrintable c && c != '\n') = true := by decide
  obtain ⟨front, back, hints, known, ends⟩ := blockHints_cases cs
  rw [hints]
  exact shown_of_all (each _ known _ ends)

theorem endingOf_open (pieces : List (List Char)) {last : List Char} (solid : last ≠ [])
    (unbroken : '\n' ∉ last) : endingOf (broken pieces ++ last) = .strip := by
  obtain ⟨front, c, rfl⟩ := (List.eq_nil_or_concat' last).resolve_left solid
  have inner : c ≠ '\n' := fun same => unbroken (by simp [same])
  rw [endingOf, List.reverse_append, List.reverse_append, List.reverse_singleton]
  split
  · rename_i same
    exact absurd (List.cons.inj same).1 inner
  · rename_i same
    exact absurd (List.cons.inj same).1 inner
  · rfl

theorem endingOf_closed (pieces : List (List Char)) (last : List Char) :
    endingOf (broken (pieces ++ [last])) = .keep ∨
      last ≠ [] ∧ endingOf (broken (pieces ++ [last])) = .clip := by
  by_cases blank : last = []
  · subst blank
    left
    rw [broken_append, broken_singleton, endingOf]
    rcases List.eq_nil_or_concat' pieces with rfl | ⟨front, piece, rfl⟩
    · rfl
    · simp [broken_append, broken_singleton, isBreak]
  · obtain ⟨front, c, rfl⟩ := (List.eq_nil_or_concat' last).resolve_left blank
    have reversed : (broken (pieces ++ [front ++ [c]])).reverse =
        '\n' :: c :: (broken pieces ++ front).reverse := by
      simp [broken_append, broken_singleton]
    rw [endingOf, reversed]
    by_cases breaks : isBreak c
    · exact .inl (if_pos breaks)
    · exact .inr ⟨blank, if_neg breaks⟩

end Headers

section Blocks

variable {cs : List Char}

/-- The pieces that the block of a text holds, and how they are printed and found again. -/
structure Blocked (cs : List Char) (block : List (List Char)) : Prop where
  shown : ∀ piece ∈ block, ∀ c ∈ piece, isPrintable c = true ∧ c ≠ '\n'
  solid : ∀ piece ∈ block, piece ≠ [] → piece.dropWhile isSpace ≠ []
  text : blockText (endingOf cs) block = cs
  found : hintOf cs = some 2 ∨ hintOf cs = none ∧ ∃ c rest more,
    block = (c :: rest) :: more ∧ isSpace c = false
  printed : ∀ indent, (if cs.getLast? = some '\n' then (blockLines indent cs).dropLast
    else blockLines indent cs) ++ ['\n'] = broken (block.map (indented indent))

theorem adjacent_append {first second : Char → Bool} {x y : Char} (here : first x = true)
    (next : second y = true) (before after : List Char) :
    adjacent first second (before ++ x :: y :: after) = true := by
  induction before with
  | nil => simp [adjacent, here, next]
  | cons c before ih =>
      cases before with
      | nil => simp [adjacent, here, next]
      | cons d before =>
          rw [List.cons_append] at ih
          simp [adjacent, ih]

theorem solid_of_last {front : List Char} {c : Char} (inner : c ≠ ' ') :
    (front ++ [c]).dropWhile isSpace ≠ [] := by
  rw [Ne, List.dropWhile_eq_nil_iff]
  intro blank
  have space : isSpace c = true := blank c (by simp)
  exact inner (beq_iff_eq.mp space)

theorem solid_piece {pieces : List (List Char)} {last : List Char}
    (calm : isFragile (broken pieces ++ last) = false) {piece : List Char}
    (member : piece ∈ pieces) (nonempty : piece ≠ []) : piece.dropWhile isSpace ≠ [] := by
  obtain ⟨before, after, rfl⟩ := List.append_of_mem member
  obtain ⟨front, c, rfl⟩ := (List.eq_nil_or_concat' piece).resolve_left nonempty
  apply solid_of_last
  -- A piece that ends with a space would have it stand before a break.
  rintro rfl
  have text : broken (before ++ (front ++ [' ']) :: after) ++ last =
      (broken before ++ front) ++ ' ' :: '\n' :: (broken after ++ last) := by
    simp [broken]
  have meets : adjacent isSpace isBreak ((broken before ++ front) ++
      ' ' :: '\n' :: (broken after ++ last)) = true := adjacent_append rfl rfl _ _
  rw [text, isFragile, meets] at calm
  cases calm

theorem blockLines_pieces (indent : Nat) {pieces : List (List Char)} {last : List Char}
    (unbroken : ∀ piece ∈ pieces, '\n' ∉ piece) (within : '\n' ∉ last) :
    blockLines indent (broken pieces ++ last) =
      broken (pieces.map (indented indent)) ++ indented indent last := by
  rw [blockLines, splitAll_broken unbroken within, List.map_append, List.map_singleton]
  exact intercalate_pieces _ _

/-- Where the header gives no indentation, the first line begins with the first character. -/
theorem hint_found {more : List Char} {block : List (List Char)} (nonempty : cs ≠ [])
    (text : cs ++ more = broken block) :
    hintOf cs = some 2 ∨ hintOf cs = none ∧
      ∃ c rest more, block = (c :: rest) :: more ∧ isSpace c = false := by
  obtain ⟨c, rest, rfl⟩ := List.exists_cons_of_ne_nil nonempty
  by_cases hidden : isSpace c || isBreak c
  · left
    simp [hintOf, hidden]
  · right
    simp only [Bool.or_eq_true, not_or, Bool.not_eq_true] at hidden
    refine ⟨by simp [hintOf, hidden], ?_⟩
    cases block with
    | nil => cases text
    | cons piece others =>
        cases piece with
        | nil =>
            have same : c = '\n' := (List.cons.inj text).1
            rw [same] at hidden
            cases hidden.2
        | cons d piece =>
            have same : c = d := (List.cons.inj text).1
            exact ⟨d, piece, others, rfl, same ▸ hidden.1⟩

theorem printable_of_calm (calm : isFragile cs = false) : ∀ c ∈ cs, isPrintable c = true := by
  simp only [isFragile, Bool.or_eq_false_iff, List.any_eq_false] at calm
  intro c member
  simpa using calm.2 c member

theorem shown_piece {pieces : List (List Char)} {last : List Char}
    (calm : isFragile (broken pieces ++ last) = false)
    (unbroken : ∀ piece ∈ pieces, '\n' ∉ piece) :
    ∀ piece ∈ pieces, ∀ c ∈ piece, isPrintable c = true ∧ c ≠ '\n' := by
  intro piece member c inside
  have early : c ∈ broken pieces :=
    List.mem_flatMap.mpr ⟨piece, member, List.mem_append_left _ inside⟩
  exact ⟨printable_of_calm calm c (List.mem_append_left last early),
    fun same => unbroken piece member (same ▸ inside)⟩

/-- Where a text ends with a break, what stands behind it is no piece of its block. -/
theorem blocked_closed {front : List (List Char)} {piece : List Char}
    (calm : isFragile (broken (front ++ [piece]) ++ []) = false)
    (unbroken : ∀ other ∈ front ++ [piece], '\n' ∉ other) :
    Blocked (broken (front ++ [piece])) (front ++ [piece]) := by
  constructor
  case shown => exact shown_piece calm unbroken
  case solid => exact fun other member => solid_piece calm member
  case text =>
      rcases endingOf_closed front piece with keeps | ⟨solid, clips⟩
      · rw [keeps, blockText_keep]
      · rw [clips, blockText_clip front solid]
  case found => exact hint_found (by simp [broken_append, broken_singleton]) (List.append_nil _)
  case printed =>
      intro indent
      have lines := blockLines_pieces indent unbroken (List.not_mem_nil (a := '\n'))
      rw [List.append_nil] at lines
      rw [lines]
      simp [broken_append, broken_singleton, indented]

/-- Where it does not, the rest behind the last break is a piece, which ends in no space. -/
theorem blocked_open {pieces : List (List Char)} {front : List Char} {c : Char}
    (calm : isFragile (broken pieces ++ (front ++ [c])) = false)
    (unbroken : ∀ piece ∈ pieces, '\n' ∉ piece) (within : '\n' ∉ front ++ [c])
    (inner : c ≠ ' ') :
    Blocked (broken pieces ++ (front ++ [c])) (pieces ++ [front ++ [c]]) := by
  have ended : front ++ [c] ≠ [] := by simp
  constructor
  case shown =>
      rw [List.forall_mem_append, List.forall_mem_singleton]
      refine ⟨shown_piece calm unbroken, fun d inside => ?_⟩
      exact ⟨printable_of_calm calm d (List.mem_append_right _ inside),
        fun same => within (same ▸ inside)⟩
  case solid =>
      rw [List.forall_mem_append, List.forall_mem_singleton]
      exact ⟨fun piece member => solid_piece calm member, fun _ => solid_of_last inner⟩
  case text => rw [endingOf_open pieces ended within, blockText_strip pieces ended]
  case found =>
      have text :
          broken pieces ++ (front ++ [c]) ++ ['\n'] = broken (pieces ++ [front ++ [c]]) := by
        simp [broken_append, broken_singleton]
      exact hint_found (by simp) text
  case printed =>
      intro indent
      have apart : c ≠ '\n' := fun same => within (by simp [same])
      have final : (broken pieces ++ (front ++ [c])).getLast? = some c := by simp
      rw [blockLines_pieces indent unbroken within, final, if_neg (by simpa using apart)]
      simp [broken_append, broken_singleton]

theorem exists_block (allowed : allowsLiteral cs = true) : ∃ block, Blocked cs block := by
  simp only [allowsLiteral, Bool.and_eq_true, Bool.not_eq_true', bne_iff_ne] at allowed
  obtain ⟨⟨nonempty, calm⟩, edge⟩ := allowed
  obtain ⟨pieces, last, rfl, unbroken, within⟩ := exists_pieces cs
  rcases List.eq_nil_or_concat' last with rfl | ⟨front, c, rfl⟩
  · rcases List.eq_nil_or_concat' pieces with rfl | ⟨front, piece, rfl⟩
    · cases nonempty
    · rw [List.append_nil]
      exact ⟨_, blocked_closed calm unbroken⟩
  · have inner : c ≠ ' ' := fun same => edge (by simp [same])
    exact ⟨_, blocked_open calm unbroken within inner⟩

theorem indented_shown {piece : List Char} (shown : ∀ c ∈ piece, isPrintable c = true ∧ c ≠ '\n')
    (indent : Nat) : ∀ c ∈ indented indent piece, isPrintable c = true ∧ c ≠ '\n' := by
  intro c member
  unfold indented at member
  split at member
  · cases member
  · rcases List.mem_append.mp member with blank | inside
    · rw [List.eq_of_mem_replicate blank]
      decide
    · exact shown c inside

theorem sheet_indented {block : List (List Char)}
    (shown : ∀ piece ∈ block, ∀ c ∈ piece, isPrintable c = true ∧ c ≠ '\n') (indent : Nat) :
    Sheet (broken (block.map (indented (indent + 2)))) := by
  induction block with
  | nil => exact .nil
  | cons piece block ih =>
      have later := ih fun other member => shown other (List.mem_cons_of_mem piece member)
      have unmarked : isMark (indented (indent + 2) piece) = false := by
        unfold indented
        split
        · rfl
        · simp [isMark, blanks, List.replicate_succ]
      have line := later.line (indented_shown (shown piece (List.mem_cons_self ..)) _) unmarked
      rwa [← List.singleton_append, ← List.append_assoc, ← broken_singleton,
        ← broken_append] at line

end Blocks

section Scalars

/-- A scalar with its lines, read as `node` where a value at `indent` goes on behind its key. -/
inductive Scalar (indent : Nat) (node : Node) : List Char → Prop
  | mk {first below : List Char} (begins : Begins first)
      (shown : ∀ c ∈ first, isPrintable c = true ∧ c ≠ '\n') (unkeyed : readKey first = none)
      (sheet : Sheet below)
      (value : ∀ lines, Stops (indent + 1) lines →
        readInline (some indent) first (rows below ++ lines) = some (node, lines)) :
      Scalar indent node (first ++ '\n' :: below)

theorem Inline.scalar {text : List Char} {node : Node} (inline : Inline text node) (indent : Nat) :
    Scalar indent node (text ++ ['\n']) :=
  .mk inline.begins inline.shown inline.unkeyed .nil (inline.value indent)

theorem literal_of_style {s : String} (literal : Style.ofText s = .literal) :
    allowsLiteral s.toList = true := by
  unfold Style.ofText at literal
  simp only at literal
  split at literal
  · split at literal
    · assumption
    · cases literal
  · split at literal
    · split at literal <;> cases literal
    · cases literal

theorem scalar_literal {s : String} (literal : Style.ofText s = .literal) (indent : Nat) :
    Scalar indent (ofText s) (printText (.ofText s) indent s ++ ['\n']) := by
  obtain ⟨block, blocked⟩ := exists_block (literal_of_style literal)
  have text : printText (.ofText s) indent s ++ ['\n'] = ('|' :: blockHints s.toList) ++
      '\n' :: broken (block.map (indented (indent + 2))) := by
    rw [literal, ← blocked.printed]
    simp [printText]
  rw [text]
  apply Scalar.mk
  case begins => exact .word (by decide) (by decide) (by decide) (by decide)
  case shown => exact blockHints_shown s.toList
  case unkeyed => simp [readKey, startsPlain, isWhite]
  case sheet => exact sheet_indented blocked.shown indent
  case value =>
      intro lines stops
      have unbroken : ∀ piece ∈ block.map (indented (indent + 2)), '\n' ∉ piece := by
        intro piece member inside
        obtain ⟨source, early, rfl⟩ := List.mem_map.mp member
        exact (indented_shown (blocked.shown source early) _ _ inside).2 rfl
      have header (below : List Line) :
          readInline (some indent) ('|' :: blockHints s.toList) below =
            (BlockHeader.read ('|' :: blockHints s.toList)).map
              fun header => readBlockScalar (some indent) header below := rfl
      have read := readBlockScalar_rows ⟨false, hintOf s.toList, endingOf s.toList⟩ rfl
        blocked.found blocked.solid stops
      rw [blocked.text, String.ofList_toList] at read
      have node : ofText s = .scalar false s := by
        rw [ofText, literal]
        rfl
      rw [header, header_read, rows_broken unbroken, List.map_map, Option.map_some, node]
      exact congrArg some read

/-- Every text is read back from the way it is written. -/
theorem scalar_text (s : String) (indent : Nat) :
    Scalar indent (ofText s) (printText (.ofText s) indent s ++ ['\n']) := by
  by_cases literal : Style.ofText s = .literal
  · exact scalar_literal literal indent
  · exact (keyed_text literal indent).toInline.scalar indent

end Scalars

end Rollout.Yaml
