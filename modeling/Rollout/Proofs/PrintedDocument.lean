import Rollout.Proofs.DocumentParts

/-!
Printed documents read back: lists and objects are laid out when what they hold
is, and a document is such an object from the first column on.
-/

namespace Rollout

/-- Values whose numbers are whole. -/
inductive Json.Whole : Json → Prop
  | null : Whole .null
  | bool (value : Bool) : Whole (.bool value)
  | int (value : Int) : Whole (.number (.int value))
  | string (value : String) : Whole (.string value)
  | array {items : List Json} (each : ∀ item ∈ items, Whole item) : Whole (.array items)
  | object {fields : List (String × Json)} (each : ∀ field ∈ fields, Whole field.2) :
      Whole (.object fields)

namespace Json

@[simp] theorem whole_string (value : String) : (Json.string value).Whole := .string value

@[simp] theorem whole_nat (value : Nat) : (Json.nat value).Whole := .int value

@[simp] theorem whole_array_iff {items : List Json} :
    (Json.array items).Whole ↔ ∀ item ∈ items, item.Whole := by
  constructor
  · rintro ⟨each⟩
    assumption
  · exact .array

@[simp] theorem whole_object_iff {fields : List (String × Json)} :
    (Json.object fields).Whole ↔ ∀ field ∈ fields, field.2.Whole := by
  constructor
  · rintro ⟨each⟩
    assumption
  · exact .object

end Json

namespace Yaml

open Node (ofJson ofItems ofFields ofText)

section Nested

variable {indent : Nat}

/-- A block that begins with an item is a list. -/
theorem readBlock_items {item : Json} {items : List Json}
    (each : ∀ other ∈ item :: items, Laid indent (ofJson other) (printItem (indent + 2) other))
    {least fuel : Nat} (within : least ≤ indent) (positive : 0 < fuel)
    (enough : (printItems indent (item :: items)).length < fuel + indent)
    {lines : List Line} (level : Level indent lines) :
    readBlock (fuel + 1) least (rows (printItems indent (item :: items)) ++ lines) =
      some (ofJson (.array (item :: items)), lines) := by
  obtain ⟨first, more, same, solid⟩ := rows_items each
  have read := readItems_rows each fuel positive enough level
  have isItem : (Line.mk indent ('-' :: ' ' :: first)).isItem = true := rfl
  have inside : ¬ indent < least := by omega
  rw [same, List.cons_append] at read ⊢
  rw [readBlock, dropIdle_solid solid]
  simp only [inside, if_false, isItem, if_true, read]
  rfl

theorem laid_array {item : Json} {items : List Json}
    (each : ∀ other ∈ item :: items,
      Laid (indent + 2) (ofJson other) (printItem (indent + 2 + 2) other)) :
    Laid indent (ofJson (.array (item :: items)))
      (printItem (indent + 2) (.array (item :: items))) := by
  have known : '-' ∈ ['-', '?', ':'] := List.mem_cons_self ..
  obtain ⟨laid, others⟩ := List.forall_mem_cons.mp each
  obtain ⟨_, _, _, split⟩ := split_mark known laid (sheet_items others).1
  have text : printItem (indent + 2) (.array (item :: items)) =
      '-' :: ' ' :: (printItem (indent + 2 + 2) item ++ printItems (indent + 2) items) := by
    simp [printItem]
  have placed : blanks (indent + 2) ++ printItem (indent + 2) (.array (item :: items)) =
      printItems (indent + 2) (item :: items) := by
    rw [text, printItems_cons]
  refine ⟨⟨_, _, text ▸ split⟩, fun fuel lines enough stops => ?_⟩
  obtain ⟨fuel, rfl⟩ := Nat.exists_eq_add_one.mpr (Nat.zero_lt_of_lt enough)
  rw [placed]
  apply readBlock_items each (by omega) (by omega) _ (stops.mono (by omega)).level
  rw [← placed, List.length_append, length_blanks]
  omega

theorem beside_array {item : Json} {items : List Json}
    (each : ∀ other ∈ item :: items, Laid indent (ofJson other) (printItem (indent + 2) other)) :
    Beside indent (ofJson (.array (item :: items)))
      (printMember indent (.array (item :: items))) := by
  obtain ⟨first, more, same, solid⟩ := rows_items each
  have text : printMember indent (.array (item :: items)) =
      [] ++ '\n' :: printItems indent (item :: items) := by
    rw [printMember, List.nil_append]
  rw [text]
  apply Beside.mk
  case parts => rfl
  case shown => exact fun c member => absurd member List.not_mem_nil
  case sheet => exact (sheet_items each).1
  case read =>
      intro fuel lines enough level
      obtain ⟨fuel, rfl⟩ := Nat.exists_eq_add_one.mpr (Nat.zero_lt_of_lt enough)
      rw [List.length_nil] at enough
      have read := readItems_rows each fuel (by omega) (by omega) level
      have isItem : (Line.mk indent ('-' :: ' ' :: first)).isItem = true := rfl
      have nothing : Line.isComment (([] : List Char).dropWhile isWhite) = true := rfl
      -- A list may stand level with its key, so it is not read as a block further in.
      rw [same, List.cons_append] at read ⊢
      rw [readValue, if_pos nothing, dropIdle_solid solid]
      simp only [isItem, decide_true, Bool.and_true, if_true, read]
      rfl

/-- A block that begins with an entry is an object. -/
theorem readBlock_entries {field : String × Json} {fields : List (String × Json)}
    (each : Entries indent (field :: fields)) {least fuel : Nat} (within : least ≤ indent)
    (positive : 0 < fuel)
    (enough : (printFields indent (blanks indent) (field :: fields)).length < fuel + indent)
    {lines : List Line} (stops : Stops indent lines) :
    readBlock (fuel + 1) least
        (rows (printFields indent (blanks indent) (field :: fields)) ++ lines) =
      some (ofJson (.object (field :: fields)), lines) := by
  obtain ⟨first, below, split, opens, same, _⟩ := rows_fields each
  have read := readEntries_rows each fuel positive enough stops
  have begins : ((Line.mk indent first).isMarked '?' || (readKey first).isSome) = true := by
    rw [Bool.or_eq_true]
    exact opens.key
  have inside : ¬ indent < least := by omega
  rw [same, List.cons_append] at read ⊢
  rw [readBlock, dropIdle_solid split.solid]
  simp only [inside, if_false, opens.other indent, Bool.false_eq_true, begins, if_true, read]
  rfl

theorem laid_object {field : String × Json} {fields : List (String × Json)}
    (each : Entries (indent + 2) (field :: fields)) :
    Laid indent (ofJson (.object (field :: fields)))
      (printItem (indent + 2) (.object (field :: fields))) := by
  obtain ⟨first, below, split, _⟩ := rows_fields each
  have text : printItem (indent + 2) (.object (field :: fields)) =
      printFields (indent + 2) [] (field :: fields) := by
    rw [printItem]
  have placed : blanks (indent + 2) ++ printFields (indent + 2) [] (field :: fields) =
      printFields (indent + 2) (blanks (indent + 2)) (field :: fields) := by
    rw [printFields_cons, printFields_cons, List.nil_append]
  rw [text]
  refine ⟨⟨first, below, split⟩, fun fuel lines enough stops => ?_⟩
  obtain ⟨fuel, rfl⟩ := Nat.exists_eq_add_one.mpr (Nat.zero_lt_of_lt enough)
  rw [placed]
  apply readBlock_entries each (by omega) (by omega) _ (stops.mono (by omega))
  rw [← placed, List.length_append, length_blanks]
  omega

theorem beside_object {field : String × Json} {fields : List (String × Json)}
    (each : Entries (indent + 2) (field :: fields)) :
    Beside indent (ofJson (.object (field :: fields)))
      (printMember indent (.object (field :: fields))) := by
  have text : printMember indent (.object (field :: fields)) =
      [] ++ '\n' :: printFields (indent + 2) (blanks (indent + 2)) (field :: fields) := by
    rw [printMember, List.nil_append]
  rw [text]
  apply Beside.mk
  case parts => rfl
  case shown => exact fun c member => absurd member List.not_mem_nil
  case sheet => exact (sheet_fields each).1
  case read =>
      intro fuel lines enough level
      obtain ⟨fuel, rfl⟩ : ∃ less, fuel = less + 2 := ⟨fuel - 2, by omega⟩
      have long :
          0 < (printFields (indent + 2) (blanks (indent + 2)) (field :: fields)).length := by
        rw [printFields_cons, List.length_append, length_blanks]
        omega
      rw [List.length_nil] at enough
      have read : readBlock (fuel + 1) (indent + 1)
          (rows (printFields (indent + 2) (blanks (indent + 2)) (field :: fields)) ++ lines) =
            some (ofJson (.object (field :: fields)), lines) :=
        readBlock_entries each (Nat.le_succ _) (by omega) (by omega)
          (level.stops.mono (Nat.le_succ _))
      obtain ⟨first, below, split, opens, same, _⟩ := rows_fields each
      have nothing : Line.isComment (([] : List Char).dropWhile isWhite) = true := rfl
      have further : ¬ indent + 2 = indent := by omega
      rw [same, List.cons_append] at read ⊢
      rw [readValue, if_pos nothing, dropIdle_solid split.solid]
      simp only [further, decide_false, Bool.false_and, Bool.false_eq_true, if_false, read]

end Nested

section Documents

/-- A value that is read back wherever it stands in a document. -/
def Legible (value : Json) : Prop :=
  ∀ indent, Laid indent (ofJson value) (printItem (indent + 2) value) ∧
    Beside indent (ofJson value) (printMember indent value)

theorem legible_scalar {value : Json}
    (scalar : ∀ indent, Scalar indent (ofJson value) (printScalar indent value ++ ['\n']))
    (item : ∀ indent, printItem indent value = printScalar (indent - 2) value ++ ['\n'])
    (member : ∀ indent, printMember indent value = ' ' :: printScalar indent value ++ ['\n']) :
    Legible value := by
  intro indent
  rw [item, member, Nat.add_sub_cancel]
  exact ⟨(scalar indent).laid, (scalar indent).beside⟩

theorem entries_of_legible {fields : List (String × Json)}
    (each : ∀ field ∈ fields, Legible field.2) (indent : Nat) : Entries indent fields :=
  fun field member => entry_field (each field member indent).1 (each field member indent).2

/-- Every value of whole numbers is read back, by induction on what it is made of. -/
theorem legible {value : Json} (whole : value.Whole) : Legible value := by
  induction whole with
  | null =>
      exact legible_scalar (fun indent => (inline_word (.inl rfl) indent).scalar indent)
        (fun indent => by rw [printItem]) fun indent => by rw [printMember]
  | bool value =>
      have word := inline_word (.inr (.inl ⟨value, rfl⟩))
      exact legible_scalar (fun indent => (word indent).scalar indent)
        (fun indent => by rw [printItem]) fun indent => by rw [printMember]
  | int value =>
      have word := inline_word (.inr (.inr ⟨value, rfl⟩))
      exact legible_scalar (fun indent => (word indent).scalar indent)
        (fun indent => by rw [printItem]) fun indent => by rw [printMember]
  | string value =>
      exact legible_scalar (fun indent => scalar_text value indent)
        (fun indent => by rw [printItem]) fun indent => by rw [printMember]
  | @array items each ih =>
      cases items with
      | nil =>
          exact legible_scalar (fun indent => (inline_brackets (.inl ⟨rfl, rfl⟩)).scalar indent)
            (fun indent => by rw [printItem]) fun indent => by rw [printMember]
      | cons item items =>
          intro indent
          exact ⟨laid_array fun other member => (ih other member (indent + 2)).1,
            beside_array fun other member => (ih other member indent).1⟩
  | @object fields each ih =>
      cases fields with
      | nil =>
          exact legible_scalar (fun indent => (inline_brackets (.inr ⟨rfl, rfl⟩)).scalar indent)
            (fun indent => by rw [printItem]) fun indent => by rw [printMember]
      | cons field fields =>
          intro indent
          have entries := entries_of_legible ih (indent + 2)
          exact ⟨laid_object entries, beside_object entries⟩

theorem dropByteOrder_shown {cs : List Char} (shown : ∀ c ∈ cs, isPrintable c = true) :
    dropByteOrder cs = cs := by
  unfold dropByteOrder
  split
  · have printable := shown _ (List.mem_cons_self ..)
    cases printable
  · rfl

/-- A sheet is a document of its own: nothing in it opens or closes one. -/
theorem parse_sheet {cs first below : List Char} (sheet : Sheet cs) (split : Split cs first below)
    (unmarked : isMark first = false) {node : Node}
    (read : ∀ fuel, cs.length + 1 < fuel → readBlock fuel 0 (rows cs) = some (node, [])) :
    Node.parse (String.ofList cs) = some node := by
  have nonempty : cs ≠ [] := by simp [split.text]
  have allowed : cs.all isAllowed = true := by
    rw [List.all_eq_true]
    exact fun c member => by simp [isAllowed, sheet.shown c member]
  have front : rows cs = ⟨0, first⟩ :: rows below := split.rows 0
  have opens : (Line.mk 0 first).opens? = none := by
    rw [← ofChars_solid 0 split.solid]
    exact after?_unmarked unmarked (List.mem_cons_self ..)
  have document : (rows cs).takeWhile (fun line => line.closes?.isNone) = rows cs := by
    rw [List.takeWhile_eq_self_iff]
    exact fun line member => by rw [sheet.unclosed line member]; rfl
  -- The fuel of a document is far more than what its text needs.
  have whole : readDocument (4 * (cs.length + (rows cs).length + 1)) (rows cs) =
      some (node, []) := by
    have taken := read (4 * (cs.length + (rows cs).length + 1)) (by omega)
    generalize 4 * (cs.length + (rows cs).length + 1) = fuel at taken ⊢
    rw [front] at taken ⊢
    rw [readDocument, dropIdle_solid split.solid]
    simp only [opens, taken]
  simp only [Node.parse, String.toList_ofList, dropByteOrder_shown sheet.shown, allowed,
    sheet.linesOf_eq nonempty, document, List.drop_length, whole]
  rfl

/-- A printed object is read as the tree that says it. -/
theorem parse_print {field : String × Json} {fields : List (String × Json)}
    (whole : (Json.object (field :: fields)).Whole) :
    Node.parse (print (.object (field :: fields))) = some (ofJson (.object (field :: fields))) := by
  have each : ∀ other ∈ field :: fields, Legible other.2 := fun other member =>
    legible (Json.whole_object_iff.mp whole other member)
  have entries : Entries 0 (field :: fields) := entries_of_legible each 0
  obtain ⟨first, below, split, opens, _, sheet⟩ := rows_fields entries
  have text : print (.object (field :: fields)) =
      String.ofList (printFields 0 [] (field :: fields)) := rfl
  rw [text]
  apply parse_sheet sheet split opens.unmarked
  intro fuel enough
  obtain ⟨fuel, rfl⟩ := Nat.exists_eq_add_one.mpr (Nat.zero_lt_of_lt enough)
  have ends : Stops 0 [] := fun line first => nomatch first
  have read := readBlock_entries entries (Nat.le_refl 0) (by omega)
    (Nat.lt_of_succ_lt_succ enough) ends
  rwa [List.append_nil] at read

end Documents

end Yaml

end Rollout
