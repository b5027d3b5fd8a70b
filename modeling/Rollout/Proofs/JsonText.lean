import Mathlib.Data.List.Nodup
import Rollout.Json.Printer
import Rollout.Json.Reader
import Rollout.Proofs.Entries

/-!
Printed JSON read back. Each reader takes exactly the text of one part from the
front of a text; what stands behind a value is the end or one of the characters
that close or go on with a list, so a number ends where its digits do.
-/

namespace Rollout

/-- Values as a document can hold them: whole numbers of 64 bits, names that do not repeat
in an object, and no more than `depth` levels of arrays and objects. -/
inductive Json.Plain : Nat → Json → Prop
  | null {depth : Nat} : Plain depth .null
  | bool {depth : Nat} (value : Bool) : Plain depth (.bool value)
  | int {depth : Nat} (value : Int) (least : Numeral.leastSigned 64 ≤ value)
      (greatest : value ≤ Numeral.greatest 64) : Plain depth (.number (.int value))
  | string {depth : Nat} (value : String) : Plain depth (.string value)
  | array {depth : Nat} {items : List Json} (each : ∀ item ∈ items, Plain depth item) :
      Plain (depth + 1) (.array items)
  | object {depth : Nat} {fields : List (String × Json)} (distinct : (fields.map Prod.fst).Nodup)
      (each : ∀ field ∈ fields, Plain depth field.2) : Plain (depth + 1) (.object fields)

namespace Json

theorem Plain.mono {depth allowed : Nat} {value : Json} (plain : value.Plain depth)
    (within : depth ≤ allowed) : value.Plain allowed := by
  induction plain generalizing allowed with
  | null => exact .null
  | bool value => exact .bool value
  | int value least greatest => exact .int value least greatest
  | string value => exact .string value
  | array each ih =>
      obtain ⟨allowed, rfl⟩ := Nat.exists_eq_add_one.mpr (Nat.zero_lt_of_lt within)
      exact .array fun item member => ih item member (Nat.le_of_succ_le_succ within)
  | object distinct each ih =>
      obtain ⟨allowed, rfl⟩ := Nat.exists_eq_add_one.mpr (Nat.zero_lt_of_lt within)
      exact .object distinct fun field member => ih field member (Nat.le_of_succ_le_succ within)

theorem plain_map {α : Type} {depth : Nat} {items : List α} (write : α → Json)
    (each : ∀ item ∈ items, (write item).Plain depth) :
    Plain (depth + 1) (.array (items.map write)) := by
  apply Plain.array
  intro value member
  obtain ⟨item, inside, rfl⟩ := List.mem_map.mp member
  exact each item inside

theorem plain_field {depth : Nat} {value : Json} (name : String) (plain : value.Plain depth) :
    Plain (depth + 1) (.object [(name, value)]) := by
  refine .object (by simp) ?_
  intro field member
  obtain rfl := List.mem_singleton.mp member
  exact plain

end Json

namespace Doc

/-- What can stand behind a value. -/
def Closes (rest : List Char) : Prop :=
  ∀ c ∈ rest.head?, c = ',' ∨ c = ']' ∨ c = '\x7d'

theorem closes_nil : Closes [] := by simp [Closes]

theorem closes_cons {c : Char} {rest : List Char} (closes : c = ',' ∨ c = ']' ∨ c = '\x7d') :
    Closes (c :: rest) := by
  simpa [Closes] using closes

theorem skip_cons {c : Char} {rest : List Char} (visible : isSpace c = false) :
    skip (c :: rest) = c :: rest := by
  simp [skip, visible]

section Strings

theorem hexValue_hexDigit : ∀ n < 16, hexValue (Json.hexDigit n) = some n := by
  decide

theorem readString_escapeChar (c : Char) (fuel : Nat) (rest : List Char) :
    readString (fuel + 1) (Json.escapeChar c ++ rest) =
      (readString fuel rest).map fun (t, r) => (t.map (c :: ·), r) := by
  unfold Json.escapeChar
  iterate 7
    split
    · subst c
      rfl
  split
  · -- Written as `\u00` and two digits: a code below the surrogates, so it stands for itself.
    rename_i control
    have high := hexValue_hexDigit (c.toNat / 16) (by omega)
    have low := hexValue_hexDigit (c.toNat % 16) (by omega)
    have code : hex4 '0' '0' (Json.hexDigit (c.toNat / 16)) (Json.hexDigit (c.toNat % 16)) =
        some c.toNat := by
      have zero : hexValue '0' = some 0 := rfl
      simp only [hex4, zero, high, low, Option.bind_eq_bind, Option.bind_some, Option.some.injEq]
      omega
    have notHigh : isHighSurrogate c.toNat = false := by
      simp only [isHighSurrogate, Bool.and_eq_false_iff, decide_eq_false_iff_not]
      omega
    have notLow : isLowSurrogate c.toNat = false := by
      simp only [isLowSurrogate, Bool.and_eq_false_iff, decide_eq_false_iff_not]
      omega
    simp only [List.cons_append, List.nil_append]
    rw [readString]
    simp [code, notHigh, notLow]
  · rename_i _ backslash _ _ _ _ _ control
    have shown : (decide (c.toNat < 0x20) || c == '\\') = false := by simp [control, backslash]
    simp [readString, backslash, shown]

theorem readString_flatMap (cs : List Char) {fuel : Nat} (enough : cs.length < fuel)
    (rest : List Char) :
    readString fuel (cs.flatMap Json.escapeChar ++ '"' :: rest) = some (some cs, rest) := by
  induction cs generalizing fuel with
  | nil =>
      obtain ⟨fuel, rfl⟩ := Nat.exists_eq_add_one.mpr enough
      rfl
  | cons c cs ih =>
      obtain ⟨fuel, rfl⟩ := Nat.exists_eq_add_one.mpr (Nat.zero_lt_of_lt enough)
      rw [List.flatMap_cons, List.append_assoc, readString_escapeChar,
        ih (Nat.lt_of_succ_lt_succ enough)]
      rfl

theorem length_escapeChar (c : Char) : 1 ≤ (Json.escapeChar c).length := by
  unfold Json.escapeChar
  repeat' split
  all_goals simp

theorem length_le_flatMap (cs : List Char) : cs.length ≤ (cs.flatMap Json.escapeChar).length := by
  induction cs with
  | nil => simp
  | cons c cs ih =>
      have one := length_escapeChar c
      rw [List.flatMap_cons, List.length_append, List.length_cons]
      omega

/-- The readers give a string the rest of the text as fuel. -/
theorem readString_print (s : String) (rest : List Char) :
    readString ((s.toList.flatMap Json.escapeChar ++ '"' :: rest).length + 1)
      (s.toList.flatMap Json.escapeChar ++ '"' :: rest) = some (some s.toList, rest) := by
  apply readString_flatMap
  have shorter := length_le_flatMap s.toList
  rw [List.length_append]
  omega

end Strings

section Numbers

theorem isSpace_of_number {c : Char} (number : c = '-' ∨ c.isDigit = true) : isSpace c = false := by
  rcases number with rfl | digit
  · rfl
  · by_contra space
    simp only [isSpace, Bool.or_eq_true, beq_iff_eq, Bool.not_eq_false] at space
    rcases space with ((rfl | rfl) | rfl) | rfl <;> cases digit

theorem digit_digitChar : ∀ n < 10, NumberLiteral.digit (Nat.digitChar n) = n := by
  decide

theorem natOf_toDigits (n : Nat) : NumberLiteral.natOf (Nat.toDigits 10 n) = n := by
  induction n using Nat.strongRecOn with
  | ind n ih =>
      by_cases small : n < 10
      · rw [Nat.toDigits_of_lt_base small]
        simpa [NumberLiteral.natOf] using digit_digitChar n small
      · rw [Nat.toDigits_of_base_le (by decide) (by omega), NumberLiteral.natOf, List.foldl_append]
        have front := ih (n / 10) (by omega)
        rw [NumberLiteral.natOf] at front
        rw [front, List.foldl_cons, List.foldl_nil, digit_digitChar _ (by omega)]
        omega

/-- Only zero is printed with a zero in front. -/
theorem zero_of_toDigits {n : Nat} {digits : List Char} (zero : Nat.toDigits 10 n = '0' :: digits) :
    n = 0 := by
  induction n using Nat.strongRecOn generalizing digits with
  | ind n ih =>
      by_cases small : n < 10
      · rw [Nat.toDigits_of_lt_base small] at zero
        have digit := digit_digitChar n small
        rw [(List.cons.inj zero).1] at digit
        exact digit.symm
      · rw [Nat.toDigits_of_base_le (by decide) (by omega)] at zero
        obtain ⟨first, front, printed⟩ := List.exists_cons_of_ne_nil
          (Nat.toDigits_ne_nil (b := 10) (n := n / 10))
        rw [printed, List.cons_append] at zero
        obtain rfl := (List.cons.inj zero).1
        have none_ := ih (n / 10) (by omega) printed
        omega

/-- What can stand behind the digits of a whole number. -/
def EndsNumber (rest : List Char) : Prop :=
  ∀ c ∈ rest.head?, c.isDigit = false ∧ c ≠ '.' ∧ c ≠ 'e' ∧ c ≠ 'E'

theorem Closes.endsNumber {rest : List Char} (closes : Closes rest) : EndsNumber rest := by
  intro c first
  rcases closes c first with rfl | rfl | rfl <;> decide

theorem readDigits_append {digits rest : List Char} (all : ∀ c ∈ digits, c.isDigit = true)
    (ends : EndsNumber rest) : readDigits (digits ++ rest) = (digits, rest) := by
  have stop : rest.takeWhile Char.isDigit = [] ∧ rest.dropWhile Char.isDigit = rest := by
    cases rest with
    | nil => exact ⟨rfl, rfl⟩
    | cons c rest => simp [(ends c rfl).1]
  simp [readDigits, List.takeWhile_append_of_pos all, List.dropWhile_append_of_pos all, stop]

theorem readWhole_toDigits (n : Nat) {rest : List Char} (ends : EndsNumber rest) :
    readWhole (Nat.toDigits 10 n ++ rest) = some (Nat.toDigits 10 n, rest) := by
  have all : ∀ c ∈ Nat.toDigits 10 n, c.isDigit = true := fun c member =>
    Nat.isDigit_of_mem_toDigits (by decide) (by decide) member
  rw [readWhole, readDigits_append all ends]
  split
  · rename_i none_
    exact absurd (congrArg Prod.fst none_) Nat.toDigits_ne_nil
  · -- A zero with digits behind it is refused, but no printed number begins so.
    rename_i second more _ zero
    have digits : Nat.toDigits 10 n = '0' :: second :: more := congrArg Prod.fst zero
    rw [zero_of_toDigits digits] at digits
    cases digits
  · rfl

theorem readUnsigned_toDigits (negative : Bool) (n : Nat) {rest : List Char}
    (ends : EndsNumber rest) : readUnsigned negative (Nat.toDigits 10 n ++ rest) =
      some (⟨negative, Nat.toDigits 10 n, none, none⟩, rest) := by
  have fraction : readFraction rest = some (none, rest) := by
    unfold readFraction
    split
    · exact absurd rfl (ends '.' rfl).2.1
    · rfl
  have exponent : readExponent rest = some (none, rest) := by
    cases rest with
    | nil => rfl
    | cons c rest =>
        obtain ⟨_, _, small, capital⟩ := ends c rfl
        simp [readExponent, small, capital]
  simp [readUnsigned, readWhole_toDigits n ends, fraction, exponent]

theorem toDigits_begins (n : Nat) :
    ∃ c cs, Nat.toDigits 10 n = c :: cs ∧ c.isDigit = true := by
  obtain ⟨c, cs, printed⟩ := List.exists_cons_of_ne_nil (Nat.toDigits_ne_nil (b := 10) (n := n))
  exact ⟨c, cs, printed,
    Nat.isDigit_of_mem_toDigits (b := 10) (n := n) (by decide) (by decide) (by simp [printed])⟩

theorem printInt_begins (n : Int) :
    ∃ c cs, Json.printInt n = c :: cs ∧ (c = '-' ∨ c.isDigit = true) := by
  rw [Json.printInt]
  split
  · exact ⟨'-', _, rfl, .inl rfl⟩
  · obtain ⟨c, cs, printed, digit⟩ := toDigits_begins n.natAbs
    exact ⟨c, cs, printed, .inr digit⟩

theorem readLiteral_printInt (n : Int) {rest : List Char} (ends : EndsNumber rest) :
    readLiteral (Json.printInt n ++ rest) =
      some (⟨decide (n < 0), Nat.toDigits 10 n.natAbs, none, none⟩, rest) := by
  rw [Json.printInt]
  split
  · rename_i negative
    rw [List.cons_append, readLiteral, readUnsigned_toDigits true _ ends]
    simp [negative]
  · rename_i positive
    rw [readLiteral, readUnsigned_toDigits false _ ends]
    · simp [positive]
    · intro more front
      obtain ⟨c, cs, printed, digit⟩ := toDigits_begins n.natAbs
      rw [printed, List.cons_append] at front
      rw [(List.cons.inj front).1] at digit
      cases digit

theorem value?_printInt {n : Int} (least : Numeral.leastSigned 64 ≤ n)
    (greatest : n ≤ Numeral.greatest 64) :
    NumberLiteral.value? ⟨decide (n < 0), Nat.toDigits 10 n.natAbs, none, none⟩ =
      some (.int n) := by
  simp only [NumberLiteral.value?, natOf_toDigits]
  by_cases negative : n < 0
  · have back : -(n.natAbs : Int) = n := by omega
    have positive : 0 < n.natAbs := by omega
    simp only [negative, decide_true, if_true, back, positive, least, Bool.and_self]
  · have back : (n.natAbs : Int) = n := by omega
    have fits : n.natAbs ≤ Numeral.greatest 64 := by omega
    simp [negative, back, fits]

end Numbers

section Values

open Json (print printItems printFields printString)

theorem readValue_literal {c : Char} {cs : List Char} (fuel : Nat)
    (number : c = '-' ∨ c.isDigit = true) :
    readValue (fuel + 1) (c :: cs) =
      (readLiteral (c :: cs)).map fun (n, r) => (.number n.value?, r) := by
  have visible : isSpace c = false := isSpace_of_number number
  rw [readValue, skip_cons visible]
  split
  case h_7 => rfl
  all_goals
    rename_i same
    obtain ⟨rfl, _⟩ := List.cons.inj same
    rcases number with differs | digit
    · cases differs
    · cases digit

theorem readValue_printInt {n : Int} (least : Numeral.leastSigned 64 ≤ n)
    (greatest : n ≤ Numeral.greatest 64) (fuel : Nat) {rest : List Char} (ends : EndsNumber rest) :
    readValue (fuel + 1) (Json.printInt n ++ rest) = some (.number (some (.int n)), rest) := by
  obtain ⟨c, cs, printed, number⟩ := printInt_begins n
  have literal := readLiteral_printInt n ends
  rw [printed] at literal
  rw [printed, List.cons_append, readValue_literal fuel number, ← List.cons_append, literal,
    Option.map_some]
  simp only [value?_printInt least greatest]

/-- A value is taken from the front of a text that goes on behind it. -/
def Readable (value : Json) : Prop :=
  ∀ fuel rest, 2 * (print value).length ≤ fuel → Closes rest →
    readValue fuel (print value ++ rest) = some (ofJson value, rest)

/-- A value does not begin like the end of an array, or with a blank. -/
theorem print_begins {depth : Nat} {value : Json} (plain : value.Plain depth) :
    ∃ c cs, print value = c :: cs ∧ isSpace c = false ∧ c ≠ ']' := by
  cases plain with
  | null => exact ⟨'n', _, rfl, rfl, by decide⟩
  | bool value => cases value <;> exact ⟨_, _, rfl, rfl, by decide⟩
  | int value least greatest =>
      obtain ⟨c, cs, printed, number⟩ := printInt_begins value
      refine ⟨c, cs, printed, isSpace_of_number number, ?_⟩
      rintro rfl
      rcases number with differs | digit
      · cases differs
      · cases digit
  | string value => exact ⟨'"', _, rfl, rfl, by decide⟩
  | @array _ items each =>
      cases items <;> exact ⟨'[', _, rfl, rfl, by decide⟩
  | @object _ fields distinct each =>
      cases fields with
      | nil => exact ⟨'\x7b', _, rfl, rfl, by decide⟩
      | cons field rest => exact ⟨'\x7b', _, rfl, rfl, by decide⟩

theorem readElements_print (item : Json) (rest : List Json)
    (each : ∀ value ∈ item :: rest, Readable value) (fuel : Nat) (tail : List Char)
    (enough : 2 * (print item ++ printItems rest).length < fuel) :
    readElements fuel (print item ++ (printItems rest ++ ']' :: tail)) =
      some (ofItems (item :: rest), tail) := by
  induction rest generalizing item fuel with
  | nil =>
      obtain ⟨fuel, rfl⟩ := Nat.exists_eq_add_one.mpr (Nat.zero_lt_of_lt enough)
      rw [List.length_append] at enough
      have first := each item (by simp) fuel (']' :: tail) (by omega) (closes_cons (by simp))
      rw [readElements, printItems, List.nil_append, first]
      rfl
  | cons next rest ih =>
      obtain ⟨fuel, rfl⟩ := Nat.exists_eq_add_one.mpr (Nat.zero_lt_of_lt enough)
      simp only [printItems, List.length_append, List.length_cons] at enough
      have first := each item (by simp) fuel
        (',' :: (print next ++ (printItems rest ++ ']' :: tail))) (by omega) (closes_cons (by simp))
      have others := ih next (fun value member => each value (List.mem_cons_of_mem _ member)) fuel
        (by rw [List.length_append]; omega)
      rw [readElements, printItems, List.cons_append, List.cons_append, List.append_assoc, first]
      simp only [skip_cons (c := ',') rfl, others]
      rfl

theorem readMembers_print (key : String) (value : Json) (rest : List (String × Json))
    (each : ∀ field ∈ (key, value) :: rest, Readable field.2) (fuel : Nat) (tail : List Char)
    (enough : 2 * (printString key ++ ':' :: print value ++ printFields rest).length < fuel) :
    readMembers fuel
        (printString key ++ ':' :: (print value ++ (printFields rest ++ '\x7d' :: tail))) =
      some (ofFields ((key, value) :: rest), tail) := by
  induction rest generalizing key value fuel with
  | nil =>
      obtain ⟨fuel, rfl⟩ := Nat.exists_eq_add_one.mpr (Nat.zero_lt_of_lt enough)
      simp only [List.length_append, List.length_cons] at enough
      have readable : Readable value := each (key, value) (by simp)
      have first := readable fuel ('\x7d' :: tail) (by omega) (closes_cons (by simp))
      rw [readMembers, printString, List.cons_append, List.cons_append, skip_cons rfl]
      simp only [List.append_assoc, List.singleton_append, readString_print,
        skip_cons (c := ':') rfl, printFields, List.nil_append, first]
      rfl
  | cons next rest ih =>
      obtain ⟨fuel, rfl⟩ := Nat.exists_eq_add_one.mpr (Nat.zero_lt_of_lt enough)
      obtain ⟨name, found⟩ := next
      simp only [printFields, List.length_append, List.length_cons] at enough
      have readable : Readable value := each (key, value) (by simp)
      have first := readable fuel
        (',' :: (printString name ++ ':' :: (print found ++ (printFields rest ++ '\x7d' :: tail))))
        (by omega) (closes_cons (by simp))
      have others := ih name found (fun field member => each field (List.mem_cons_of_mem _ member))
        fuel (by simp only [List.length_append, List.length_cons]; omega)
      rw [readMembers, printString, List.cons_append, List.cons_append, skip_cons rfl]
      simp only [List.append_assoc, List.cons_append, List.nil_append, readString_print,
        skip_cons (c := ':') rfl, printFields, first, skip_cons (c := ',') rfl, others]
      rfl

/-- A value has a first character, so its readers are never without fuel. -/
theorem readable_of {depth : Nat} {value : Json} (plain : value.Plain depth)
    (reads : ∀ fuel rest, 2 * (print value).length ≤ fuel + 1 → Closes rest →
      readValue (fuel + 1) (print value ++ rest) = some (ofJson value, rest)) :
    Readable value := by
  intro fuel rest enough closes
  obtain ⟨_, _, begins, _⟩ := print_begins plain
  have positive : 0 < fuel := by
    rw [begins, List.length_cons] at enough
    omega
  obtain ⟨fuel, rfl⟩ := Nat.exists_eq_add_one.mpr positive
  exact reads fuel rest enough closes

theorem readable {depth : Nat} {value : Json} (plain : value.Plain depth) : Readable value := by
  apply readable_of plain
  -- Each level takes two readers, one for the list and one for its value, hence twice the length.
  induction plain with
  | null =>
      intro fuel rest enough closes
      rfl
  | bool value =>
      intro fuel rest enough closes
      cases value <;> rfl
  | int value least greatest =>
      intro fuel rest enough closes
      exact readValue_printInt least greatest fuel closes.endsNumber
  | string value =>
      intro fuel rest enough closes
      rw [print, printString, List.cons_append, List.cons_append, readValue, skip_cons rfl]
      simp only [List.append_assoc, List.singleton_append, readString_print]
      rfl
  | @array depth items each ih =>
      intro fuel rest enough closes
      cases items with
      | nil => rfl
      | cons item items =>
          simp only [print, List.length_append, List.length_cons] at enough
          have inside := readElements_print item items
            (fun value member => readable_of (each value member) (ih value member)) fuel rest
            (by rw [List.length_append]; omega)
          -- The first item shows that the array is not an empty one.
          obtain ⟨c, cs, begins, visible, goesOn⟩ := print_begins (each item (by simp))
          have text : print (.array (item :: items)) ++ rest =
              '[' :: (print item ++ (printItems items ++ ']' :: rest)) := by
            simp [print]
          rw [text, readValue, skip_cons rfl]
          rw [begins, List.cons_append] at inside ⊢
          simp only [skip_cons visible]
          split
          · rename_i same
            exact absurd (List.cons.inj same).1 goesOn
          · rw [inside]
            rfl
  | @object depth fields distinct each ih =>
      intro fuel rest enough closes
      cases fields with
      | nil => rfl
      | cons field fields =>
          obtain ⟨key, value⟩ := field
          simp only [print, List.length_append, List.length_cons] at enough
          have inside := readMembers_print key value fields
            (fun field member => readable_of (each field member) (ih field member)) fuel rest
            (by simp only [List.length_append, List.length_cons]; omega)
          have text : print (.object ((key, value) :: fields)) ++ rest =
              '\x7b' :: (printString key ++
                ':' :: (print value ++ (printFields fields ++ '\x7d' :: rest))) := by
            simp [print]
          rw [text, readValue, skip_cons rfl]
          rw [printString, List.cons_append, List.cons_append] at inside ⊢
          simp only [skip_cons (c := '"') rfl]
          change (readMembers fuel _).map _ = _
          rw [inside]
          rfl

theorem readFront_compact {depth : Nat} {value : Json} (plain : value.Plain depth) :
    readFront value.compact.toList = some (ofJson value, []) := by
  have read := readable plain (2 * (print value).length + 2) [] (by omega) closes_nil
  rw [List.append_nil] at read
  rw [Json.compact, String.toList_ofList, readFront, read]
  rfl

/-- A printed value is read as the document that says it. -/
theorem parse_compact {depth : Nat} {value : Json} (plain : value.Plain depth) :
    parse value.compact = some (ofJson value) := by
  rw [parse, parseChars, readFront_compact plain]

end Values

section Depth

variable {depth allowed : Nat}

theorem ofItems_eq (items : List Json) : ofItems items = items.map ofJson := by
  induction items with
  | nil => rfl
  | cons item rest ih => rw [ofItems, ih, List.map_cons]

theorem ofFields_eq (fields : List (String × Json)) :
    ofFields fields = fields.map fun field => (some field.1.toList, ofJson field.2) := by
  induction fields with
  | nil => rfl
  | cons field rest ih => rw [ofFields, ih, List.map_cons]

theorem itemsToJson?_ofItems {items : List Json}
    (each : ∀ item ∈ items, toJson? allowed (ofJson item) = some item) :
    itemsToJson? allowed (ofItems items) = some items := by
  induction items with
  | nil => rfl
  | cons item rest ih =>
      have others := ih fun value member => each value (List.mem_cons_of_mem _ member)
      rw [ofItems, itemsToJson?, each item (by simp), others]

theorem fieldsToJson?_ofFields {fields : List (String × Json)}
    (each : ∀ field ∈ fields, toJson? allowed (ofJson field.2) = some field.2) :
    fieldsToJson? allowed (ofFields fields) = some fields := by
  induction fields with
  | nil => rfl
  | cons field rest ih =>
      obtain ⟨key, value⟩ := field
      have first : toJson? allowed (ofJson value) = some value := each (key, value) (by simp)
      have others := ih fun field member => each field (List.mem_cons_of_mem _ member)
      simp only [ofFields, fieldsToJson?, first, others, String.ofList_toList]

/-- A document has its value wherever as many levels are allowed as the value has. -/
theorem toJson?_ofJson {value : Json} (plain : value.Plain depth) (within : depth ≤ allowed) :
    toJson? allowed (ofJson value) = some value := by
  induction plain generalizing allowed with
  | null | bool | int => rfl
  | string value => simp [ofJson, toJson?]
  | @array depth items each ih =>
      obtain ⟨allowed, rfl⟩ := Nat.exists_eq_add_one.mpr (Nat.zero_lt_of_lt within)
      have items_ := itemsToJson?_ofItems fun item member =>
        ih item member (Nat.le_of_succ_le_succ within)
      rw [ofJson, toJson?, items_]
      rfl
  | @object depth fields distinct each ih =>
      obtain ⟨allowed, rfl⟩ := Nat.exists_eq_add_one.mpr (Nat.zero_lt_of_lt within)
      have fields_ := fieldsToJson?_ofFields fun field member =>
        ih field member (Nat.le_of_succ_le_succ within)
      rw [ofJson, toJson?, fields_, Option.map_some, upsertAll_of_nodup distinct]

end Depth

end Doc

/-- Up to the deepest nesting that is read at all, printing and reading give the value back. -/
theorem Json.parse_compact {value : Json} (plain : value.Plain Doc.deepest) :
    Json.parse value.compact = some value := by
  rw [Json.parse, Doc.parse_compact plain, Option.bind_some,
    Doc.toJson?_ofJson plain (Nat.le_refl _)]

end Rollout
