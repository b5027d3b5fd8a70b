import Mathlib.Data.List.Basic
import Rollout.Text.Split
import Rollout.Yaml.Printer
import Rollout.Yaml.Reader

/-!
A printed document as lines. Each line has its break, so that texts put behind
each other are lines put behind each other, and no line is a mark that would
open or close a document.
-/

namespace Rollout.Yaml

open Text (splitAll splitAll_ne_nil splitAll_piece splitAll_whole)

/-- Every piece with its break. -/
def broken (pieces : List (List Char)) : List Char := pieces.flatMap (· ++ ['\n'])

/-- The lines of a text that ends with a break. -/
def rows (cs : List Char) : List Line := (splitAll '\n' cs).dropLast.map Line.ofChars

section Pieces

theorem broken_append (pieces more : List (List Char)) :
    broken (pieces ++ more) = broken pieces ++ broken more :=
  List.flatMap_append

theorem broken_singleton (piece : List Char) : broken [piece] = piece ++ ['\n'] := by
  simp [broken]

theorem splitAll_broken {pieces : List (List Char)} (unbroken : ∀ piece ∈ pieces, '\n' ∉ piece)
    {last : List Char} (within : '\n' ∉ last) :
    splitAll '\n' (broken pieces ++ last) = pieces ++ [last] := by
  induction pieces with
  | nil => exact splitAll_whole within
  | cons piece pieces ih =>
      have later := ih fun other member => unbroken other (List.mem_cons_of_mem piece member)
      have text : broken (piece :: pieces) ++ last = piece ++ '\n' :: (broken pieces ++ last) := by
        simp [broken]
      rw [text, splitAll_piece (unbroken piece (List.mem_cons_self ..)), later]
      rfl

/-- Every text is pieces with their breaks, and what stands behind the last of them. -/
theorem exists_pieces (cs : List Char) : ∃ pieces last, cs = broken pieces ++ last ∧
    (∀ piece ∈ pieces, '\n' ∉ piece) ∧ '\n' ∉ last := by
  induction cs with
  | nil => exact ⟨[], [], rfl, by simp, by simp⟩
  | cons c cs ih =>
      obtain ⟨pieces, last, rfl, unbroken, within⟩ := ih
      by_cases same : c = '\n'
      · subst same
        refine ⟨[] :: pieces, last, by simp [broken], ?_, within⟩
        simpa using unbroken
      · cases pieces with
        | nil => exact ⟨[], c :: last, rfl, by simp, by simp [within, Ne.symm same]⟩
        | cons piece pieces =>
            refine ⟨(c :: piece) :: pieces, last, by simp [broken], ?_, within⟩
            simpa [Ne.symm same] using unbroken

theorem intercalate_pieces (pieces : List (List Char)) (last : List Char) :
    ['\n'].intercalate (pieces ++ [last]) = broken pieces ++ last := by
  induction pieces with
  | nil => simp [broken]
  | cons piece pieces ih =>
      rw [List.cons_append, List.intercalate_cons_of_ne_nil (by simp), ih]
      simp [broken]

theorem rows_line {piece : List Char} (unbroken : '\n' ∉ piece) (rest : List Char) :
    rows (piece ++ '\n' :: rest) = Line.ofChars piece :: rows rest := by
  rw [rows, splitAll_piece unbroken, List.dropLast_cons_of_ne_nil (splitAll_ne_nil _ rest)]
  rfl

theorem rows_broken {pieces : List (List Char)} (unbroken : ∀ piece ∈ pieces, '\n' ∉ piece) :
    rows (broken pieces) = pieces.map Line.ofChars := by
  have split : splitAll '\n' (broken pieces ++ []) = pieces ++ [[]] :=
    splitAll_broken unbroken List.not_mem_nil
  rw [List.append_nil] at split
  rw [rows, split, List.dropLast_concat]

theorem ofChars_blanks (indent : Nat) (piece : List Char) :
    Line.ofChars (blanks indent ++ piece) =
      ⟨indent + (piece.length - (piece.dropWhile isSpace).length), piece.dropWhile isSpace⟩ := by
  have dropped : (blanks indent ++ piece).dropWhile isSpace = piece.dropWhile isSpace := by
    induction indent with
    | zero => rfl
    | succ indent ih =>
        rw [blanks, List.replicate_succ, List.cons_append, List.dropWhile_cons_of_pos rfl]
        exact ih
  have shorter := (List.dropWhile_suffix isSpace (l := piece)).length_le
  rw [Line.ofChars, dropped]
  congr 1
  rw [List.length_append, blanks, List.length_replicate]
  omega

end Pieces

section Sheets

/-- The marks that open and close a document. -/
def isMark (cs : List Char) : Bool := [['-', '-', '-'], ['.', '.', '.']].contains (cs.take 3)

theorem after?_unmarked {cs : List Char} (unmarked : isMark cs = false) {mark : List Char}
    (known : mark ∈ [['-', '-', '-'], ['.', '.', '.']]) : (Line.ofChars cs).after? mark = none := by
  have apart : cs.take 3 ≠ mark := by
    rintro rfl
    rw [isMark, List.contains_iff_mem.mpr known] at unmarked
    cases unmarked
  cases cs with
  | nil =>
      have differs : ¬ [] = mark := apart
      simp [Line.after?, Line.ofChars, differs]
  | cons c cs =>
      by_cases space : isSpace c = true
      · -- Marks are not indented.
        have shorter := (List.dropWhile_suffix isSpace (l := cs)).length_le
        have deep : ¬ cs.length + 1 - (cs.dropWhile isSpace).length = 0 := by omega
        simp [Line.after?, Line.ofChars, List.dropWhile_cons_of_pos space, deep]
      · rw [Line.ofChars, List.dropWhile_cons_of_neg space, Line.after?]
        simp only [apart, decide_false, Bool.and_false, Bool.false_and, Bool.false_eq_true,
          if_false]

/-- Lines as they may stand in a document: each with its break, of printable characters, and none
of them a closing mark. -/
structure Sheet (cs : List Char) : Prop where
  full : ∃ pieces, cs = broken pieces ∧ ∀ piece ∈ pieces, '\n' ∉ piece
  shown : ∀ c ∈ cs, isPrintable c = true
  unclosed : ∀ line ∈ rows cs, line.closes? = none

theorem rows_append {cs : List Char} (sheet : Sheet cs) (more : List Char) :
    rows (cs ++ more) = rows cs ++ rows more := by
  obtain ⟨pieces, rfl, unbroken⟩ := sheet.full
  rw [rows_broken unbroken]
  clear sheet
  induction pieces with
  | nil => rfl
  | cons piece pieces ih =>
      have text : broken (piece :: pieces) ++ more = piece ++ '\n' :: (broken pieces ++ more) := by
        simp [broken]
      rw [text, rows_line (unbroken piece (List.mem_cons_self ..)),
        ih fun other member => unbroken other (List.mem_cons_of_mem piece member)]
      rfl

namespace Sheet

variable {cs more : List Char}

theorem nil : Sheet [] := ⟨⟨[], rfl, by simp⟩, by simp, by simp [rows, splitAll]⟩

theorem append (sheet : Sheet cs) (behind : Sheet more) : Sheet (cs ++ more) := by
  constructor
  case full =>
      obtain ⟨pieces, rfl, unbroken⟩ := sheet.full
      obtain ⟨others, rfl, within⟩ := behind.full
      refine ⟨pieces ++ others, (broken_append pieces others).symm, fun piece member => ?_⟩
      exact (List.mem_append.mp member).elim (unbroken piece) (within piece)
  case shown =>
      intro c member
      exact (List.mem_append.mp member).elim (sheet.shown c) (behind.shown c)
  case unclosed =>
      intro line member
      rw [rows_append sheet] at member
      exact (List.mem_append.mp member).elim (sheet.unclosed line) (behind.unclosed line)

theorem line {first : List Char} (shown : ∀ c ∈ first, isPrintable c = true ∧ c ≠ '\n')
    (unmarked : isMark first = false) (below : Sheet more) : Sheet (first ++ '\n' :: more) := by
  have unbroken : '\n' ∉ first := fun member => (shown _ member).2 rfl
  constructor
  case full =>
      obtain ⟨pieces, rfl, within⟩ := below.full
      refine ⟨first :: pieces, by simp [broken], ?_⟩
      intro piece member
      rcases List.mem_cons.mp member with rfl | member
      · exact unbroken
      · exact within piece member
  case shown =>
      intro c member
      rcases List.mem_append.mp member with early | late
      · exact (shown c early).1
      · rcases List.mem_cons.mp late with rfl | late
        · rfl
        · exact below.shown c late
  case unclosed =>
      intro line member
      rw [rows_line unbroken] at member
      rcases List.mem_cons.mp member with rfl | member
      · exact after?_unmarked unmarked (by simp)
      · exact below.unclosed line member

/-- No line of a sheet ends with a return, so its lines are those of the document. -/
theorem linesOf_eq (sheet : Sheet cs) (nonempty : cs ≠ []) : linesOf cs = rows cs := by
  obtain ⟨pieces, rfl, unbroken⟩ := sheet.full
  obtain ⟨front, last, rfl⟩ := (List.eq_nil_or_concat' pieces).resolve_left fun same =>
    nonempty (congrArg broken same)
  have ended : (broken (front ++ [last])).getLast? = some '\n' := by
    simp [broken_append, broken_singleton]
  have returnless (piece : List Char) (member : piece ∈ front ++ [last]) :
      dropReturn piece = piece := by
    -- A return is not printable.
    refine if_neg fun same => ?_
    have inside : '\r' ∈ broken (front ++ [last]) :=
      List.mem_flatMap.mpr ⟨piece, member, List.mem_append_left _ (List.mem_of_getLast? same)⟩
    have printable := sheet.shown _ inside
    cases printable
  have split : splitAll '\n' (broken (front ++ [last]) ++ []) = front ++ [last] ++ [[]] :=
    splitAll_broken unbroken List.not_mem_nil
  rw [List.append_nil] at split
  rw [linesOf, if_pos ended, rows, split, List.dropLast_concat]
  exact List.map_congr_left fun piece member => congrArg Line.ofChars (returnless piece member)

end Sheet

end Sheets

end Rollout.Yaml
