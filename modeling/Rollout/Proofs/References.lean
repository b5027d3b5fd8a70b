import Mathlib.Data.List.Basic
import Rollout.Entity
import Rollout.Proofs.Trimming
import Rollout.Text.Split

/-!
The ways to write a reference. Kind and namespace may be left out, the kind may be in capitals, and
blanks may stand around; the printed text is the one with all three parts and a small kind, and it
is read as the reference it was printed from.
-/

namespace Rollout

namespace Text

variable {c : Char} {cs : List Char}

/-- Folding turns nothing but letters into letters. -/
theorem mem_map_toLower (plain : c.isAlpha = false) : c ∈ cs.map Char.toLower ↔ c ∈ cs := by
  have kept {d : Char} (plain : d.isAlpha = false) : d.toLower = d := by
    rw [isAlpha_eq, Bool.or_eq_false_iff] at plain
    exact toLower_eq_self (by simp [plain.1])
  have alone {d : Char} : d.toLower = c ↔ d = c := by
    constructor
    · rintro rfl
      rw [isAlpha_toLower] at plain
      exact (kept plain).symm
    · rintro rfl
      exact kept plain
  simp [alone]

theorem isBlank_toLower (visible : isBlank c = false) : isBlank c.toLower = false := by
  by_cases big : c.isUpper = true
  · apply isBlank_of_isLower
    rw [isLower_toLower, isAlpha_eq, big, Bool.true_or]
  · rwa [toLower_eq_self big]

end Text

open Text

namespace EntityRef

/-- The parts of a reference as they are written, kind and namespace if they are. -/
structure Spelling where
  kind : Option (List Char)
  space : Option (List Char)
  name : List Char

namespace Spelling

variable (p : Spelling)

def chars : List Char :=
  p.kind.elim [] (· ++ [':']) ++ (p.space.elim [] (· ++ ['/']) ++ p.name)

def kindChars : List Char := (p.kind.getD environmentKind.toList).map Char.toLower

def spaceChars : List Char := p.space.getD defaultSpace.toList

def ref : EntityRef :=
  ⟨String.ofList p.kindChars, String.ofList p.spaceChars, String.ofList p.name⟩

/-- Each part ends where it is read to end. -/
structure Proper : Prop where
  kind : ∀ k ∈ p.kind, k ≠ [] ∧ ':' ∉ k
  space : ∀ s ∈ p.space, s ≠ [] ∧ '/' ∉ s
  name : p.name ≠ [] ∧ '/' ∉ p.name ∧ ':' ∉ p.name
  /-- Without a kind, a colon of the namespace would end one. -/
  kindless : p.kind = none → ∀ s ∈ p.space, ':' ∉ s

/-- The spelling with all parts. -/
def full : Spelling := ⟨some p.kindChars, some p.spaceChars, p.name⟩

variable {p}

@[simp] theorem toList_kind : p.ref.kind.toList = p.kindChars := String.toList_ofList

@[simp] theorem toList_space : p.ref.space.toList = p.spaceChars := String.toList_ofList

@[simp] theorem toList_name : p.ref.name.toList = p.name := String.toList_ofList

theorem kindChars_proper (proper : p.Proper) : p.kindChars ≠ [] ∧ ':' ∉ p.kindChars := by
  rw [kindChars, ne_eq, List.map_eq_nil_iff, mem_map_toLower rfl]
  cases kind : p.kind with
  | none => exact ⟨by decide, by decide⟩
  | some k => exact proper.kind k kind

theorem kindChars_small {c : Char} (member : c ∈ p.kindChars) : c.isUpper = false := by
  obtain ⟨d, _, rfl⟩ := List.mem_map.mp member
  exact isUpper_toLower d

theorem spaceChars_proper (proper : p.Proper) : p.spaceChars ≠ [] ∧ '/' ∉ p.spaceChars := by
  rw [spaceChars]
  cases space : p.space with
  | none => exact ⟨by decide, by decide⟩
  | some s => exact proper.space s space

theorem full_proper (proper : p.Proper) : p.full.Proper where
  kind := by
    rintro _ ⟨⟩
    exact kindChars_proper proper
  space := by
    rintro _ ⟨⟩
    exact spaceChars_proper proper
  name := proper.name
  kindless := nofun

theorem full_ref : p.full.ref = p.ref := by
  have folded : p.full.kindChars = p.kindChars := by
    change p.kindChars.map Char.toLower = p.kindChars
    rw [kindChars, List.map_map]
    exact List.map_congr_left fun c _ => toLower_eq_self (by simp)
  rw [ref, folded]
  rfl

theorem toList_text : p.ref.text.toList = p.full.chars := by
  simp [text, full, chars, String.toList_append]

theorem colon_notMem (proper : p.Proper) (kind : p.kind = none) : ':' ∉ p.chars := by
  intro member
  rw [chars, kind, Option.elim_none, List.nil_append, List.mem_append] at member
  rcases member with before | inside
  · cases space : p.space with
    | none => simp [space] at before
    | some s => exact proper.kindless kind s space (by simpa [space] using before)
  · exact proper.name.2.2 inside

/-- Every spelling ends with the name. -/
theorem getLast?_chars (filled : p.name ≠ []) : p.chars.getLast? = p.name.getLast? := by
  rw [chars, ← List.append_assoc, List.getLast?_append_of_ne_nil _ filled]

theorem kindChars_first (proper : p.Proper) (trimmed : Trimmed p.chars) {c : Char}
    (first : c ∈ p.kindChars.head?) : isBlank c = false := by
  -- A kind that is written is the front of the text, so its first character is visible there.
  cases kind : p.kind with
  | none =>
      rw [kindChars, kind] at first
      obtain rfl : 'a' = c := Option.some.inj first
      decide
  | some k =>
      obtain ⟨d, rest, rfl⟩ := List.exists_cons_of_ne_nil (proper.kind k kind).1
      rw [kindChars, kind] at first
      obtain rfl : d.toLower = c := Option.some.inj first
      exact isBlank_toLower (trimmed.first d (by simp [chars, kind]))

theorem full_trimmed (proper : p.Proper) (trimmed : Trimmed p.chars) : Trimmed p.full.chars where
  first c member := by
    obtain ⟨d, rest, kind⟩ := List.exists_cons_of_ne_nil (kindChars_proper proper).1
    apply kindChars_first proper trimmed
    rw [kind]
    simpa [full, chars, kind] using member
  last c member := by
    have same : p.full.chars.getLast? = p.chars.getLast? :=
      (getLast?_chars (p := p.full) proper.name.1).trans (getLast?_chars proper.name.1).symm
    exact trimmed.last c (same ▸ member)

end Spelling

variable {cs : List Char} {ref : EntityRef}

theorem parseChars_some {default : List Char} : parseChars cs default = some ref ↔
    ∃ kind rest space name, (splitOnce ':' cs).getD (default, cs) = (kind, rest) ∧
      (splitOnce '/' rest).getD (defaultSpace.toList, rest) = (space, name) ∧
      kind ≠ [] ∧ space ≠ [] ∧ (name ≠ [] ∧ '/' ∉ name ∧ ':' ∉ name) ∧
      ⟨String.ofList (kind.map Char.toLower), String.ofList space, String.ofList name⟩ = ref := by
  rw [parseChars]
  generalize (splitOnce ':' cs).getD (default, cs) = first
  obtain ⟨kind, rest⟩ := first
  dsimp only
  generalize second : (splitOnce '/' rest).getD (defaultSpace.toList, rest) = parts
  obtain ⟨space, name⟩ := parts
  simp_all [not_or, and_assoc]

/-- What is read is what some spelling says. -/
theorem parseChars_iff : parseChars cs environmentKind.toList = some ref ↔
    ∃ p : Spelling, p.Proper ∧ p.chars = cs ∧ p.ref = ref := by
  rw [parseChars_some]
  constructor
  · rintro ⟨_, rest, _, name, cut, cut', filled, filled', named, rfl⟩
    obtain ⟨kind, apart, rfl, rfl⟩ := splitOnce_getD.mp cut
    obtain ⟨space, apart', rfl, rfl⟩ := splitOnce_getD.mp cut'
    refine ⟨⟨kind, space, name⟩, ⟨?_, ?_, named, ?_⟩, rfl, rfl⟩
    · rintro k ⟨⟩
      exact ⟨filled, apart⟩
    · rintro s ⟨⟩
      exact ⟨filled', apart'⟩
    · -- A colon of the namespace would have been the first one.
      rintro ⟨⟩ s ⟨⟩ member
      exact apart (by simp [member])
  · rintro ⟨p, proper, rfl, rfl⟩
    have first : p.kind.elim (':' ∉ p.space.elim [] (· ++ ['/']) ++ p.name) (':' ∉ ·) := by
      cases kind : p.kind with
      | none => simpa [Spelling.chars, kind] using Spelling.colon_notMem proper kind
      | some k => exact (proper.kind k kind).2
    have second : p.space.elim ('/' ∉ p.name) ('/' ∉ ·) := by
      cases space : p.space with
      | none => exact proper.name.2.1
      | some s => exact (proper.space s space).2
    have filled : p.kind.getD environmentKind.toList ≠ [] := fun empty =>
      (Spelling.kindChars_proper proper).1 (List.map_eq_nil_iff.mpr empty)
    exact ⟨_, _, _, _, splitOnce_getD.mpr ⟨p.kind, first, rfl, rfl⟩,
      splitOnce_getD.mpr ⟨p.space, second, rfl, rfl⟩, filled,
      (Spelling.spaceChars_proper proper).1, proper.name, rfl⟩

/-- A text for a reference: blanks, some spelling of it, blanks. -/
inductive Spelled (ref : EntityRef) (s : String) : Prop
  | intro {front back : List Char} {p : Spelling} (blank : Blank front) (blank' : Blank back)
      (text : s.toList = front ++ p.chars ++ back) (trimmed : Trimmed p.chars)
      (proper : p.Proper) (same : p.ref = ref)

theorem parse_ok {s : String} : parse s = .ok ref ↔
    ∃ p : Spelling, p.Proper ∧ p.chars = (trim s).toList ∧ p.ref = ref := by
  rw [← parseChars_iff]
  delta parse parseWith
  cases parseChars (trim s).toList environmentKind.toList <;> simp

theorem parse_iff_spelled {s : String} : parse s = .ok ref ↔ Spelled ref s := by
  rw [parse_ok]
  constructor
  · rintro ⟨p, proper, chars, same⟩
    obtain ⟨front, back, blank, blank', text, trimmed⟩ := toList_trim_iff.mp chars.symm
    exact .intro blank blank' text trimmed proper same
  · rintro ⟨blank, blank', text, trimmed, proper, same⟩
    exact ⟨_, proper, (toList_trim_iff.mpr ⟨_, _, blank, blank', text, trimmed⟩).symm, same⟩

/-- The printed text is a spelling of its own. -/
theorem parse_text {s : String} (read : parse s = .ok ref) : parse ref.text = .ok ref := by
  obtain ⟨blank, blank', text, trimmed, proper, rfl⟩ := parse_iff_spelled.mp read
  rename_i front back p
  have nothing : Blank [] := by simp [Blank]
  have printed : p.ref.text.toList = [] ++ p.full.chars ++ [] := by
    rw [List.nil_append, List.append_nil, Spelling.toList_text]
  exact parse_iff_spelled.mpr (.intro nothing nothing printed (Spelling.full_trimmed proper trimmed)
    (Spelling.full_proper proper) Spelling.full_ref)

theorem parts_of_parse {s : String} (read : parse s = .ok ref) :
    (ref.kind ≠ "" ∧ ref.space ≠ "" ∧ ref.name ≠ "") ∧
    ∀ c ∈ ref.kind.toList, c.isUpper = false := by
  obtain ⟨p, proper, _, rfl⟩ := parse_ok.mp read
  have shown {cs : List Char} (filled : cs ≠ []) : String.ofList cs ≠ "" := by simpa using filled
  refine ⟨⟨shown (Spelling.kindChars_proper proper).1, shown (Spelling.spaceChars_proper proper).1,
    shown proper.name.1⟩, fun c member => ?_⟩
  rw [Spelling.toList_kind] at member
  exact Spelling.kindChars_small member

/-- A reference that was read has its three parts, the kind in small letters, and one printed text,
which is read as it and as nothing else; what else is read as it are its spellings. -/
theorem references_printed {s : String} {ref : EntityRef} (read : parse s = .ok ref) :
    (ref.kind ≠ "" ∧ ref.space ≠ "" ∧ ref.name ≠ "") ∧
    (∀ c ∈ ref.kind.toList, c.isUpper = false) ∧
    parse ref.text = .ok ref ∧
    (∀ other, parse other = .ok ref ↔ Spelled ref other) ∧
    ∀ other found, parse other = .ok found → found.text = ref.text → found = ref := by
  obtain ⟨filled, small⟩ := parts_of_parse read
  refine ⟨filled, small, parse_text read, fun _ => parse_iff_spelled,
    fun other found read' same => ?_⟩
  have again := parse_text read'
  rw [same, parse_text read] at again
  exact (Except.ok.inj again).symm

/-- A reference in which a part is left out, another in capitals. -/
theorem sample_references_printed : parse " AWSEnvironment:dev " =
      .ok ⟨"awsenvironment", "default", "dev"⟩ ∧
    parse "awsenvironment:default/dev" = .ok ⟨"awsenvironment", "default", "dev"⟩ ∧
    Spelled ⟨"awsenvironment", "default", "dev"⟩ "dev" := by
  have read : parse " AWSEnvironment:dev " = .ok ⟨"awsenvironment", "default", "dev"⟩ := rfl
  obtain ⟨_, _, printed, spelled, _⟩ := references_printed read
  exact ⟨read, printed, (spelled "dev").mp rfl⟩

end EntityRef

end Rollout
