import Rollout.Proofs.LiteralBlocks

/-!
The items of a list and the entries of an object. A node is laid out from a
column on: its first line goes on behind the mark or the key it belongs to, and
its other lines are below. Each reader takes exactly the lines of its node from
the front of a document that goes on with a line further to the left.
-/

namespace Rollout

namespace Yaml

open Node (ofJson ofItems ofFields ofText)

section Lines

@[simp] theorem length_blanks (n : Nat) : (blanks n).length = n := List.length_replicate

theorem dropWhile_solid {cs : List Char} (solid : Solid cs) : cs.dropWhile isSpace = cs := by
  obtain ⟨c, rest, rfl, visible, _⟩ := solid
  rw [isWhite, Bool.or_eq_false_iff] at visible
  exact List.dropWhile_cons_of_neg (by simp [isSpace, visible.1])

theorem ofChars_solid (indent : Nat) {cs : List Char} (solid : Solid cs) :
    Line.ofChars (blanks indent ++ cs) = ⟨indent, cs⟩ := by
  rw [ofChars_blanks, dropWhile_solid solid, Nat.sub_self, Nat.add_zero]

theorem dropIdle_solid {line : Line} (solid : Solid line.content) (lines : List Line) :
    dropIdle (line :: lines) = line :: lines := by
  obtain ⟨c, rest, content, _, comment⟩ := solid
  exact List.dropWhile_cons_of_neg (by simp [Line.isIdle, Line.isComment, content, comment])

theorem dropIdle_stops {indent : Nat} {lines : List Line} (stops : Stops indent lines) :
    dropIdle lines = lines := by
  cases lines with
  | nil => rfl
  | cons line lines => exact dropIdle_solid (stops line rfl).2 lines

/-- What stands behind a mark is read as a line two columns further. -/
theorem behind_mark (indent : Nat) (mark : Char) {cs : List Char} (solid : Solid cs) :
    (Line.mk indent (mark :: ' ' :: cs)).behind = ⟨indent + 2, cs⟩ := by
  have dropped : (' ' :: cs).dropWhile isSpace = cs := by
    rw [List.dropWhile_cons_of_pos rfl, dropWhile_solid solid]
  simp only [Line.behind, List.drop_succ_cons, List.drop_zero, dropped, List.length_cons]
  congr 1
  omega

/-- The rest of a document goes on left of an indentation, or level with it but not as a list. -/
def Level (indent : Nat) (lines : List Line) : Prop :=
  ∀ line ∈ lines.head?,
    (line.indent < indent ∨ line.indent = indent ∧ line.isItem = false) ∧ Solid line.content

theorem Stops.level {indent : Nat} {lines : List Line} (stops : Stops indent lines) :
    Level indent lines :=
  fun line first => ⟨.inl (stops line first).1, (stops line first).2⟩

theorem Level.stops {indent : Nat} {lines : List Line} (level : Level indent lines) :
    Stops (indent + 1) lines := by
  intro line first
  obtain ⟨left, solid⟩ := level line first
  exact ⟨by omega, solid⟩

theorem Stops.mono {indent deeper : Nat} {lines : List Line} (stops : Stops indent lines)
    (within : indent ≤ deeper) : Stops deeper lines :=
  fun line first => ⟨Nat.lt_of_lt_of_le (stops line first).1 within, (stops line first).2⟩

/-- A text as its first line and the lines below. -/
structure Split (text first below : List Char) : Prop where
  text : text = first ++ '\n' :: below
  solid : Solid first
  shown : ∀ c ∈ first, isPrintable c = true ∧ c ≠ '\n'
  sheet : Sheet below

namespace Split

variable {text first below : List Char} {indent : Nat}

theorem rows (split : Split text first below) (indent : Nat) :
    rows (blanks indent ++ text) = ⟨indent, first⟩ :: Yaml.rows below := by
  have unbroken : '\n' ∉ blanks indent ++ first := by
    intro member
    rcases List.mem_append.mp member with blank | inside
    · cases List.eq_of_mem_replicate blank
    · exact (split.shown _ inside).2 rfl
  rw [split.text, ← List.append_assoc, rows_line unbroken, ofChars_solid indent split.solid]

theorem sheet_at (split : Split text first below)
    (unmarked : isMark (blanks indent ++ first) = false) : Sheet (blanks indent ++ text) := by
  rw [split.text, ← List.append_assoc]
  refine split.sheet.line (fun c member => ?_) unmarked
  rcases List.mem_append.mp member with blank | inside
  · rw [List.eq_of_mem_replicate blank]
    decide
  · exact split.shown c inside

end Split

end Lines

/-- A node that is laid out from two columns behind an indentation on. -/
structure Laid (indent : Nat) (node : Node) (text : List Char) : Prop where
  split : ∃ first below, Split text first below
  read : ∀ fuel lines, text.length + 1 < fuel → Stops (indent + 1) lines →
    readBlock fuel (indent + 1) (rows (blanks (indent + 2) ++ text) ++ lines) = some (node, lines)

/-- A node behind the colon of a key at an indentation. -/
inductive Beside (indent : Nat) (node : Node) : List Char → Prop
  | mk {inline below : List Char} (parts : Parts inline)
      (shown : ∀ c ∈ inline, isPrintable c = true ∧ c ≠ '\n') (sheet : Sheet below)
      (read : ∀ fuel lines, inline.length + below.length + 1 < fuel → Level indent lines →
        readValue fuel indent (inline.dropWhile isWhite) (rows below ++ lines) =
          some (node, lines)) :
      Beside indent node (inline ++ '\n' :: below)

section Scalars

variable {indent : Nat} {node : Node} {text : List Char}

theorem Scalar.laid (scalar : Scalar indent node text) : Laid indent node text := by
  obtain @⟨first, below, begins, shown, unkeyed, sheet, value⟩ := scalar
  have split : Split (first ++ '\n' :: below) first below := ⟨rfl, begins.solid, shown, sheet⟩
  refine ⟨⟨first, below, split⟩, fun fuel lines enough stops => ?_⟩
  obtain ⟨fuel, rfl⟩ := Nat.exists_eq_add_one.mpr (Nat.zero_lt_of_lt enough)
  have deep : ¬ indent + 2 < indent + 1 := by omega
  have item : (Line.mk (indent + 2) first).isItem = false := begins.unmarked _ (.inl rfl)
  have marked : (Line.mk (indent + 2) first).isMarked '?' = false := begins.unmarked _ (.inr rfl)
  rw [split.rows, List.cons_append, readBlock, dropIdle_solid begins.solid]
  simp only [deep, if_false, item, marked, unkeyed, Bool.false_eq_true, Option.isSome_none,
    Bool.or_false, Nat.add_one_ne_zero, Nat.add_sub_cancel]
  exact value lines stops

theorem Scalar.beside (scalar : Scalar indent node text) : Beside indent node (' ' :: text) := by
  obtain @⟨first, below, begins, shown, unkeyed, sheet, value⟩ := scalar
  rw [← List.cons_append]
  apply Beside.mk
  case parts => rfl
  case shown =>
      rintro c (_ | ⟨_, member⟩)
      · decide
      · exact shown c member
  case sheet => exact sheet
  case read =>
      intro fuel lines enough level
      obtain ⟨fuel, rfl⟩ := Nat.exists_eq_add_one.mpr (Nat.zero_lt_of_lt enough)
      obtain ⟨c, rest, rfl, visible, comment⟩ := begins.solid
      have content : (' ' :: c :: rest).dropWhile isWhite = c :: rest := by
        rw [List.dropWhile_cons_of_pos rfl, List.dropWhile_cons_of_neg (by simp [visible])]
      rw [content, readValue, if_neg (by simp [Line.isComment, comment])]
      exact value lines level.stops

end Scalars

section Lists

variable {indent : Nat} {node : Node} {text tail : List Char}

/-- The node behind a mark, with what follows below. -/
theorem split_mark {mark : Char} (known : mark ∈ ['-', '?', ':']) (laid : Laid indent node text)
    (sheet : Sheet tail) : ∃ first below, Split text first below ∧
      Split (mark :: ' ' :: (text ++ tail)) (mark :: ' ' :: first) (below ++ tail) := by
  obtain ⟨first, below, split⟩ := laid.split
  have visible : isWhite mark = false ∧ mark ≠ '#' ∧ isPrintable mark = true ∧ mark ≠ '\n' := by
    simp only [List.mem_cons, List.not_mem_nil, or_false] at known
    rcases known with rfl | rfl | rfl <;> decide
  refine ⟨first, below, split, ?_, ?_, ?_, split.sheet.append sheet⟩
  · simp [split.text]
  · exact ⟨mark, _, rfl, visible.1, visible.2.1⟩
  · rintro c (_ | ⟨_, _ | ⟨_, member⟩⟩)
    · exact visible.2.2
    · decide
    · exact split.shown c member

/-- The lines of a marked node are the lines of the node itself, seen from behind the mark. -/
theorem read_marked {mark : Char} (known : mark ∈ ['-', '?', ':']) (laid : Laid indent node text)
    (sheet : Sheet tail) : ∃ first more, rows (blanks indent ++ mark :: ' ' :: (text ++ tail)) =
      ⟨indent, mark :: ' ' :: first⟩ :: more ∧ Solid (mark :: ' ' :: first) ∧
      Sheet (blanks indent ++ mark :: ' ' :: (text ++ tail)) ∧
      ∀ fuel lines, text.length + 1 < fuel → Stops (indent + 1) (rows tail ++ lines) →
        readBlock fuel (indent + 1)
            ((Line.mk indent (mark :: ' ' :: first)).behind :: (more ++ lines)) =
          some (node, rows tail ++ lines) := by
  obtain ⟨first, below, split, marked⟩ := split_mark known laid sheet
  refine ⟨first, rows (below ++ tail), marked.rows indent, marked.solid, ?_, ?_⟩
  · apply marked.sheet_at
    cases indent <;> simp [isMark, blanks, List.replicate_succ]
  · intro fuel lines enough stops
    have read := laid.read fuel (rows tail ++ lines) enough stops
    rw [split.rows] at read
    rw [behind_mark indent mark split.solid, rows_append split.sheet, List.append_assoc]
    exact read

theorem readItems_step (laid : Laid indent node text) (sheet : Sheet tail) {fuel : Nat}
    (enough : text.length + 1 < fuel) {lines : List Line}
    (stops : Stops (indent + 1) (rows tail ++ lines)) :
    readItems (fuel + 1) indent (rows (blanks indent ++ '-' :: ' ' :: (text ++ tail)) ++ lines) =
      (readItems fuel indent (rows tail ++ lines)).map fun (items, left) =>
        (node :: items, left) := by
  have known : '-' ∈ ['-', '?', ':'] := List.mem_cons_self ..
  obtain ⟨first, more, same, solid, _, read⟩ := read_marked known laid sheet
  have item : (Line.mk indent ('-' :: ' ' :: first)).isItem = true := rfl
  rw [same, List.cons_append, readItems, dropIdle_solid solid]
  simp only [item, Nat.lt_irrefl, decide_false, Bool.not_true, Bool.and_false, Bool.or_false,
    Bool.false_eq_true, if_false, if_true, read fuel lines enough stops, Option.bind_eq_bind,
    Option.bind_some]
  cases readItems fuel indent (rows tail ++ lines) <;> rfl

theorem readItems_level {fuel : Nat} {lines : List Line} (level : Level indent lines) :
    readItems (fuel + 1) indent lines = some ([], lines) := by
  rw [readItems]
  cases lines with
  | nil => rfl
  | cons line lines =>
      obtain ⟨left, solid⟩ := level line rfl
      rw [dropIdle_solid solid]
      refine if_pos ?_
      rcases left with left | ⟨left, other⟩
      · simp [left]
      · simp [left, other]

theorem printItems_cons (indent : Nat) (item : Json) (items : List Json) :
    printItems indent (item :: items) =
      blanks indent ++ '-' :: ' ' :: (printItem (indent + 2) item ++ printItems indent items) := by
  simp [printItems]

/-- Items with their lines are lines, and the first of them has a mark. -/
theorem rows_item {item : Json} {items : List Json}
    (laid : Laid indent (ofJson item) (printItem (indent + 2) item))
    (sheet : Sheet (printItems indent items)) : ∃ first more,
      rows (printItems indent (item :: items)) = ⟨indent, '-' :: ' ' :: first⟩ :: more ∧
      Solid ('-' :: ' ' :: first) ∧ Sheet (printItems indent (item :: items)) := by
  have known : '-' ∈ ['-', '?', ':'] := List.mem_cons_self ..
  obtain ⟨first, more, same, solid, whole, _⟩ := read_marked known laid sheet
  rw [printItems_cons]
  exact ⟨first, more, same, solid, whole⟩

/-- Items are written line by line, and what goes on behind their mark is not further in. -/
theorem sheet_items {items : List Json}
    (each : ∀ item ∈ items, Laid indent (ofJson item) (printItem (indent + 2) item)) :
    Sheet (printItems indent items) ∧ ∀ lines, Level indent lines →
      Stops (indent + 1) (rows (printItems indent items) ++ lines) := by
  induction items with
  | nil => exact ⟨.nil, fun lines level => level.stops⟩
  | cons item items ih =>
      obtain ⟨laid, others⟩ := List.forall_mem_cons.mp each
      obtain ⟨sheet, _⟩ := ih others
      obtain ⟨first, more, same, solid, whole⟩ := rows_item laid sheet
      refine ⟨whole, fun lines _ => ?_⟩
      rw [same]
      rintro line ⟨⟩
      exact ⟨Nat.lt_succ_self indent, solid⟩

theorem rows_items {item : Json} {items : List Json}
    (each : ∀ other ∈ item :: items, Laid indent (ofJson other) (printItem (indent + 2) other)) :
    ∃ first more, rows (printItems indent (item :: items)) =
      ⟨indent, '-' :: ' ' :: first⟩ :: more ∧ Solid ('-' :: ' ' :: first) := by
  obtain ⟨laid, others⟩ := List.forall_mem_cons.mp each
  obtain ⟨first, more, same, solid, _⟩ := rows_item laid (sheet_items others).1
  exact ⟨first, more, same, solid⟩

/-- A list is read item by item, up to a line that is none of them. -/
theorem readItems_rows {items : List Json}
    (each : ∀ item ∈ items, Laid indent (ofJson item) (printItem (indent + 2) item)) (fuel : Nat)
    (positive : 0 < fuel) (enough : (printItems indent items).length < fuel + indent)
    {lines : List Line} (level : Level indent lines) :
    readItems fuel indent (rows (printItems indent items) ++ lines) =
      some (ofItems items, lines) := by
  obtain ⟨fuel, rfl⟩ := Nat.exists_eq_add_one.mpr positive
  induction items generalizing fuel with
  | nil => exact readItems_level level
  | cons item items ih =>
      obtain ⟨laid, others⟩ := List.forall_mem_cons.mp each
      obtain ⟨sheet, follows⟩ := sheet_items others
      rw [printItems_cons] at enough ⊢
      simp only [List.length_append, List.length_cons, length_blanks] at enough
      rw [readItems_step laid sheet (by omega) (follows lines level)]
      obtain ⟨fuel, rfl⟩ : ∃ less, fuel = less + 1 := ⟨fuel - 1, by omega⟩
      rw [ih others fuel (by omega) (by omega)]
      rfl

end Lists

section Entries

variable {indent : Nat} {key value : Node} {keyText text tail : List Char}

/-- The first line of an entry: a key with its colon, or the mark of a key. -/
structure Opens (first : List Char) : Prop where
  other : ∀ indent, (Line.mk indent first).isItem = false
  key : (Line.mk 0 first).isMarked '?' = true ∨ (readKey first).isSome = true
  unmarked : isMark first = false

/-- An entry of an object, read before whatever goes on behind it. -/
structure Entry (indent : Nat) (key value : Node) (text : List Char) : Prop where
  split : ∀ tail, Sheet tail → ∃ first below, Split (text ++ tail) first below ∧ Opens first
  read : ∀ fuel tail lines, Sheet tail → text.length ≤ fuel → Level indent (rows tail ++ lines) →
    readEntries (fuel + 1) indent (rows (blanks indent ++ (text ++ tail)) ++ lines) =
      (readEntries fuel indent (rows tail ++ lines)).map fun (entries, left) =>
        ((key, value) :: entries, left)

theorem entry_simple (keyed : Keyed keyText key) (beside : Beside indent value text) :
    Entry indent key value (keyText ++ ':' :: text) := by
  obtain @⟨inline, below, parts, shown, sheet, read⟩ := beside
  have opens : Opens (keyText ++ ':' :: inline) := by
    constructor
    case other => exact fun indent => (keyed.begins.append _).unmarked indent (.inl rfl)
    case key => exact .inr (by rw [keyed.key inline parts]; rfl)
    case unmarked => exact keyed.unmarked inline
  have split (tail : List Char) (later : Sheet tail) :
      Split (keyText ++ ':' :: (inline ++ '\n' :: below) ++ tail) (keyText ++ ':' :: inline)
        (below ++ tail) := by
    refine ⟨by simp, (keyed.begins.append _).solid, fun c member => ?_, sheet.append later⟩
    rcases List.mem_append.mp member with inside | member
    · exact keyed.shown c inside
    · rcases List.mem_cons.mp member with rfl | inside
      · decide
      · exact shown c inside
  constructor
  case split => exact fun tail later => ⟨_, _, split tail later, opens⟩
  case read =>
      intro fuel tail lines later enough level
      have marked : (Line.mk indent (keyText ++ ':' :: inline)).isMarked '?' = false :=
        (keyed.begins.append _).unmarked indent (.inr rfl)
      simp only [List.length_append, List.length_cons] at enough
      have taken := read fuel (rows tail ++ lines) (by omega) level
      rw [(split tail later).rows indent, List.cons_append, readEntries,
        dropIdle_solid (split tail later).solid, rows_append sheet, List.append_assoc]
      simp only [Nat.lt_irrefl, if_false, marked, Bool.and_false, Bool.false_eq_true, if_true,
        keyed.key inline parts, taken, Option.bind_eq_bind, Option.bind_some]
      cases readEntries fuel indent (rows tail ++ lines) <;> rfl

theorem entry_marked (keyLaid : Laid indent key keyText) (laid : Laid indent value text) :
    Entry indent key value
      ('?' :: ' ' :: (keyText ++ (blanks indent ++ ':' :: ' ' :: text))) := by
  have question : '?' ∈ ['-', '?', ':'] := by decide
  have colon : ':' ∈ ['-', '?', ':'] := by decide
  have whole (tail : List Char) :
      '?' :: ' ' :: (keyText ++ (blanks indent ++ ':' :: ' ' :: text)) ++ tail =
        '?' :: ' ' :: (keyText ++ (blanks indent ++ ':' :: ' ' :: (text ++ tail))) := by
    simp
  constructor
  case split =>
      intro tail later
      obtain ⟨_, _, _, _, sheet, _⟩ := read_marked colon laid later
      obtain ⟨first, below, _, split⟩ := split_mark question keyLaid sheet
      rw [whole]
      refine ⟨_, _, split, ⟨fun indent => rfl, .inl rfl, ?_⟩⟩
      simp [isMark]
  case read =>
      intro fuel tail lines later enough level
      obtain ⟨first, more, same, solid, sheet, read⟩ := read_marked colon laid later
      obtain ⟨mark, rest, front, visible, _, readFirst⟩ := read_marked question keyLaid sheet
      simp only [List.length_cons, List.length_append] at enough
      obtain ⟨fuel, rfl⟩ : ∃ less, fuel = less + 1 := ⟨fuel - 1, by omega⟩
      have stops : Stops (indent + 1)
          (rows (blanks indent ++ ':' :: ' ' :: (text ++ tail)) ++ lines) := by
        rw [same]
        rintro line ⟨⟩
        exact ⟨Nat.lt_succ_self indent, solid⟩
      -- The colon of the value is level with the mark of the key, so the key ends before it.
      have keyRead := readFirst (fuel + 1) lines (by omega) stops
      have valueRead := read fuel lines (by omega) level.stops
      rw [same, List.cons_append] at keyRead
      have isKey : (Line.mk indent ('?' :: ' ' :: mark)).isMarked '?' = true := rfl
      have isValue : (Line.mk indent (':' :: ' ' :: first)).isMarked ':' = true := rfl
      rw [whole, front, List.cons_append, readEntries, dropIdle_solid visible]
      simp only [Nat.lt_irrefl, if_false, isKey, decide_true, Bool.and_true, if_true, keyRead,
        Option.bind_eq_bind, Option.bind_some]
      rw [dropIdle_solid solid, readMarkedValue]
      simp only [isValue, decide_true, Bool.and_true, if_true, valueRead, Option.bind_some]
      cases readEntries (fuel + 1) indent (rows tail ++ lines) <;> rfl

/-- The text of one entry, as `printFields` writes it. -/
def fieldText (indent : Nat) (key : String) (value : Json) : List Char :=
  if isSimpleKey key then printKey indent key ++ ':' :: printMember indent value
  else '?' :: ' ' :: printKey indent key ++ '\n' :: blanks indent ++ ':' :: ' ' ::
    printItem (indent + 2) value

theorem printFields_cons (indent : Nat) (lead : List Char) (field : String × Json)
    (fields : List (String × Json)) : printFields indent lead (field :: fields) =
      lead ++ (fieldText indent field.1 field.2 ++ printFields indent (blanks indent) fields) := by
  rw [printFields, List.append_assoc]
  rfl

theorem entry_field {name : String} {json : Json}
    (laid : Laid indent (ofJson json) (printItem (indent + 2) json))
    (beside : Beside indent (ofJson json) (printMember indent json)) :
    Entry indent (ofText name) (ofJson json) (fieldText indent name json) := by
  by_cases simple : isSimpleKey name = true
  · rw [fieldText, if_pos simple]
    exact entry_simple (keyed_text (line_of_simpleKey simple) indent) beside
  · have text : fieldText indent name json = '?' :: ' ' :: ((printKey indent name ++ ['\n']) ++
        (blanks indent ++ ':' :: ' ' :: printItem (indent + 2) json)) := by
      rw [fieldText, if_neg simple]
      simp
    rw [text]
    exact entry_marked (scalar_text name indent).laid laid

variable {fields : List (String × Json)}

/-- Every field of an object is laid out as an entry. -/
def Entries (indent : Nat) (fields : List (String × Json)) : Prop :=
  ∀ field ∈ fields, Entry indent (ofText field.1) (ofJson field.2)
    (fieldText indent field.1 field.2)

/-- Entries with their lines are lines, the first of them opens an entry, and what goes on
behind them is no list. -/
theorem rows_field {field : String × Json}
    (entry : Entry indent (ofText field.1) (ofJson field.2) (fieldText indent field.1 field.2))
    (sheet : Sheet (printFields indent (blanks indent) fields)) : ∃ first below,
      Split (printFields indent [] (field :: fields)) first below ∧ Opens first ∧
      rows (printFields indent (blanks indent) (field :: fields)) =
        ⟨indent, first⟩ :: rows below ∧
      Sheet (printFields indent (blanks indent) (field :: fields)) := by
  obtain ⟨first, below, split, opens⟩ := entry.split _ sheet
  have unmarked : isMark (blanks indent ++ first) = false := by
    cases indent with
    | zero => exact opens.unmarked
    | succ indent => simp [isMark, blanks, List.replicate_succ]
  rw [printFields_cons, printFields_cons]
  exact ⟨first, below, split, opens, split.rows indent, split.sheet_at unmarked⟩

theorem sheet_fields (each : Entries indent fields) :
    Sheet (printFields indent (blanks indent) fields) ∧ ∀ lines, Stops indent lines →
      Level indent (rows (printFields indent (blanks indent) fields) ++ lines) := by
  induction fields with
  | nil => exact ⟨.nil, fun lines stops => stops.level⟩
  | cons field fields ih =>
      obtain ⟨entry, others⟩ := List.forall_mem_cons.mp each
      obtain ⟨sheet, _⟩ := ih others
      obtain ⟨first, below, split, opens, same, whole⟩ := rows_field entry sheet
      refine ⟨whole, fun lines _ => ?_⟩
      rw [same]
      rintro line ⟨⟩
      exact ⟨.inr ⟨rfl, opens.other indent⟩, split.solid⟩

theorem rows_fields {field : String × Json} (each : Entries indent (field :: fields)) :
    ∃ first below, Split (printFields indent [] (field :: fields)) first below ∧ Opens first ∧
      rows (printFields indent (blanks indent) (field :: fields)) =
        ⟨indent, first⟩ :: rows below ∧
      Sheet (printFields indent (blanks indent) (field :: fields)) := by
  obtain ⟨entry, others⟩ := List.forall_mem_cons.mp each
  exact rows_field entry (sheet_fields others).1

theorem readEntries_stops {fuel : Nat} {lines : List Line} (stops : Stops indent lines) :
    readEntries (fuel + 1) indent lines = some ([], lines) := by
  rw [readEntries, dropIdle_stops stops]
  cases lines with
  | nil => rfl
  | cons line lines => exact if_pos (stops line rfl).1

/-- An object is read entry by entry, up to a line that is further left. -/
theorem readEntries_rows (each : Entries indent fields) (fuel : Nat) (positive : 0 < fuel)
    (enough : (printFields indent (blanks indent) fields).length < fuel + indent)
    {lines : List Line} (stops : Stops indent lines) :
    readEntries fuel indent (rows (printFields indent (blanks indent) fields) ++ lines) =
      some (ofFields fields, lines) := by
  obtain ⟨fuel, rfl⟩ := Nat.exists_eq_add_one.mpr positive
  induction fields generalizing fuel with
  | nil => exact readEntries_stops stops
  | cons field fields ih =>
      obtain ⟨entry, others⟩ := List.forall_mem_cons.mp each
      obtain ⟨sheet, follows⟩ := sheet_fields others
      have nonempty : 0 < (fieldText indent field.1 field.2).length := by
        unfold fieldText
        split <;> simp
      rw [printFields_cons] at enough ⊢
      simp only [List.length_append, length_blanks] at enough
      rw [entry.read fuel _ lines sheet (by omega) (follows lines stops)]
      obtain ⟨fuel, rfl⟩ : ∃ less, fuel = less + 1 := ⟨fuel - 1, by omega⟩
      rw [ih others fuel (by omega) (by omega)]
      rfl

end Entries

end Yaml

end Rollout
