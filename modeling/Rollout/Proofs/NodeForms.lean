import Rollout.Proofs.RecordForms
import Rollout.Yaml.Decode

/-!
Typed readers of YAML trees against the trees of written values. `Returns` is
the contract of one part; a record is read back when its parts are, with the
fields that are not written found missing.
-/

namespace Rollout.Yaml

open Node (ofJson ofItems ofFields ofText)
open Numeral (digitValue? readDigit natural?)
open Rollout.Decoder (mapM_map_of_inverse)
open Doc (zero_of_toDigits toDigits_begins)

/-- Where a written field is found again. -/
def Field.ofField : Option Json → Field
  | some json => .found (ofJson json)
  | none => .unnamed

/-- A plain text is nothing that stands for no value. -/
theorem isNull_of_plain {s : String} (plain : Style.ofText s = .plain) : isNull s = false := by
  cases null : isNull s with
  | false => rfl
  | true =>
      have quoted : needsQuotes s = true := by simp [needsQuotes, null]
      unfold Style.ofText at plain
      simp only [quoted, Bool.true_or, if_true] at plain
      split at plain
      · split at plain <;> cases plain
      · split at plain <;> cases plain

namespace Decoder

variable {α : Type} {json : Json} {value : α} {item : Decoder α}

/-- The tree of `json` is read as `value`. -/
def Returns (item : Decoder α) (json : Json) (value : α) : Prop := item (ofJson json) = some value

section Parts

theorem ofItems_eq (items : List Json) : ofItems items = items.map ofJson := by
  induction items with
  | nil => rfl
  | cons item rest ih => rw [ofItems, ih, List.map_cons]

theorem ofFields_eq (fields : List (String × Json)) :
    ofFields fields = fields.map fun field => (ofText field.1, ofJson field.2) := by
  induction fields with
  | nil => rfl
  | cons field rest ih => rw [ofFields, ih, List.map_cons]

theorem text_ofText (s : String) : text (ofText s) = some s := rfl

theorem returns_text (s : String) : Returns .text (.string s) s := by
  rw [Returns, ofJson]
  exact text_ofText s

theorem returns_list {write : α → Json} {items : List α}
    (each : ∀ value ∈ items, Returns item (write value) value) :
    Returns (.list item) (.array (items.map write)) items := by
  rw [Returns, ofJson, list, ofItems_eq, List.map_map]
  exact mapM_map_of_inverse each

/-- A dictionary is read back from its entries in any order: their names differ, so entering one
after the other overwrites none. -/
theorem returns_dict {write : α → Json} {dict : Dict α} {entries : List (String × α)}
    (order : entries.Perm dict.entries)
    (each : ∀ field ∈ entries, Returns item (write field.2) field.2) :
    Returns (.dict item) (.object (entries.map fun field => (field.1, write field.2))) dict := by
  have read : (ofFields (entries.map fun field => (field.1, write field.2))).mapM (entry item) =
      some entries := by
    rw [ofFields_eq, List.map_map]
    apply mapM_map_of_inverse
    intro field member
    have read : item (ofJson (write field.2)) = some field.2 := each field member
    simp [entry, text_ofText, read]
  rw [Returns, ofJson, Decoder.dict, read, Option.map_some, Dict.ofList_perm order]

/-- What is read of a value is read of it also where it may be missing. -/
theorem returns_option (returns : Returns item json value)
    (named : ∀ s, ofJson json = .scalar true s → isNull s = false) :
    item.option (ofJson json) = some (some value) := by
  rw [Returns] at returns
  cases node : ofJson json with
  | scalar plain s =>
      rw [node] at returns
      cases plain with
      | true => simp [Decoder.option, named s node, returns]
      | false => simp [Decoder.option, returns]
  | sequence items =>
      rw [node] at returns
      simp [Decoder.option, returns]
  | mapping entries =>
      rw [node] at returns
      simp [Decoder.option, returns]

theorem named_string (s : String) :
    ∀ t, ofJson (.string s) = .scalar true t → isNull t = false := by
  intro t same
  rw [ofJson, ofText] at same
  obtain ⟨plain, rfl⟩ := Node.scalar.inj same
  exact isNull_of_plain (beq_iff_eq.mp plain)

theorem named_object (fields : List (String × Json)) :
    ∀ t, ofJson (.object fields) = .scalar true t → isNull t = false := by
  intro t impossible
  rw [ofJson] at impossible
  cases impossible

section Numbers

theorem digitValue_digitChar : ∀ d < 10, digitValue? (Nat.digitChar d) = some d := by
  decide

/-- Digits in any script that the reader knows are read as the number they are of. -/
theorem readDigits_toDigits {base : Nat} (large : 1 < base) {write : Char → Char}
    (reads : ∀ d < base, digitValue? (write (Nat.digitChar d)) = some d) (n : Nat) :
    ((Nat.toDigits base n).map write).foldlM (readDigit base) 0 = some n := by
  induction n using Nat.strongRecOn with
  | ind n ih =>
      by_cases small : n < base
      · rw [Nat.toDigits_of_lt_base small]
        simp [readDigit, reads n small, small]
      · -- The last digit is read on top of the number that the others say.
        have last : n % base < base := Nat.mod_lt n (by omega)
        rw [Nat.toDigits_of_base_le large (by omega), List.map_append, List.foldlM_append,
          ih (n / base) (Nat.div_lt_self (by omega) large)]
        simp only [Option.pure_def, Option.bind_eq_bind, Option.bind_some, List.map_cons,
          List.map_nil, List.foldlM_cons, List.foldlM_nil, readDigit, reads _ last, if_pos last,
          Nat.div_add_mod']

theorem natural_toDigits (n : Nat) : natural? 10 (Nat.toDigits 10 n) = some n := by
  obtain ⟨c, cs, printed⟩ := List.exists_cons_of_ne_nil (Nat.toDigits_ne_nil (b := 10) (n := n))
  have read : ((Nat.toDigits 10 n).map id).foldlM (readDigit 10) 0 = some n :=
    readDigits_toDigits (by decide) digitValue_digitChar n
  rw [List.map_id, printed] at read
  rw [printed]
  exact read

/-- No printed number has a zero in front of more. -/
theorem toDigits_unpadded (n : Nat) (c : Char) (rest : List Char) :
    Nat.toDigits 10 n ≠ '0' :: c :: rest := by
  intro padded
  have zero := zero_of_toDigits padded
  subst zero
  cases padded

theorem toDigits_unsigned (n : Nat) {c : Char} {rest : List Char}
    (printed : Nat.toDigits 10 n = c :: rest) : c.isDigit = true :=
  Nat.isDigit_of_mem_toDigits (b := 10) (n := n) (by decide) (by decide) (by simp [printed])

theorem isPadded_toDigits (n : Nat) : isPadded (Nat.toDigits 10 n) = false := by
  have unsigned : dropSign (Nat.toDigits 10 n) = Nat.toDigits 10 n := by
    unfold dropSign
    split
    · next printed => exact absurd (toDigits_unsigned n printed) (by decide)
    · next printed => exact absurd (toDigits_unsigned n printed) (by decide)
    · rfl
  unfold isPadded
  rw [unsigned]
  split
  · next padded => exact absurd padded (toDigits_unpadded n _ _)
  · rfl

theorem magnitude_toDigits (n : Nat) : magnitude? (Nat.toDigits 10 n) = some n := by
  unfold magnitude?
  split
  · next padded => exact absurd padded (toDigits_unpadded n _ _)
  · next padded => exact absurd padded (toDigits_unpadded n _ _)
  · next padded => exact absurd padded (toDigits_unpadded n _ _)
  · exact natural_toDigits n

/-- Printed digits are no other kind of number. -/
theorem integer_toDigits (n : Nat) :
    integer? (String.ofList (Nat.toDigits 10 n)) = some (n : Int) := by
  simp only [integer?, String.toList_ofList, isPadded_toDigits, Bool.false_eq_true, if_false]
  split
  · next printed => exact absurd (toDigits_unsigned n printed) (by decide)
  · next printed => exact absurd (toDigits_unsigned n printed) (by decide)
  · rw [magnitude_toDigits]
    rfl

theorem compact_nat (n : Nat) : (Json.nat n).compact = String.ofList (Nat.toDigits 10 n) := by
  have whole : ¬ (n : Int) < 0 := by omega
  simp only [Json.compact, Json.nat, Json.int, Json.print, Json.printNumber, Json.printInt,
    if_neg whole, Int.natAbs_natCast]

theorem returns_natural {bits n : Nat} (within : n ≤ Numeral.greatest bits) :
    Returns (.natural bits) (.nat n) n := by
  have unsigned : (String.ofList (Nat.toDigits 10 n)).toList.head? ≠ some '-' := by
    rw [String.toList_ofList]
    intro minus
    obtain ⟨rest, printed⟩ := List.head?_eq_some_iff.mp minus
    exact absurd (toDigits_unsigned n printed) (by decide)
  have node : ofJson (.nat n) = .scalar true (String.ofList (Nat.toDigits 10 n)) := by
    rw [← compact_nat]
    rfl
  rw [Returns, node, natural, unsigned?, if_neg unsigned, integer_toDigits]
  simp [within]

end Numbers

end Parts

section Records

variable {fields : List (String × Option Json)} {name : String} {content : Option Json}

theorem findField_other {key : String} (other : key ≠ name) :
    findField name (ofFields (Json.written ((key, content) :: fields))) =
      findField name (ofFields (Json.written fields)) := by
  cases content with
  | none => rfl
  | some json =>
      have rest : Json.written ((key, some json) :: fields) =
          (key, json) :: Json.written fields := rfl
      rw [rest, ofFields, findField, text_ofText]
      cases findField name (ofFields (Json.written fields)) with
      | none => rfl
      | some found => simp [other]

theorem findField_absent (absent : ∀ field ∈ fields, field.1 ≠ name) :
    findField name (ofFields (Json.written fields)) = some none := by
  induction fields with
  | nil => rfl
  | cons field rest ih =>
      rw [findField_other (absent field List.mem_cons_self)]
      exact ih fun field member => absent field (List.mem_cons_of_mem _ member)

theorem findField_own (later : findField name (ofFields (Json.written fields)) = some none) :
    findField name (ofFields (Json.written ((name, content) :: fields))) =
      some (content.map ofJson) := by
  cases content with
  | none => exact later
  | some json =>
      have rest : Json.written ((name, some json) :: fields) =
          (name, json) :: Json.written fields := rfl
      rw [rest, ofFields, findField, text_ofText, later]
      simp

/-- Of fields with different names the one of a name is found, if it is written. -/
theorem findField_written (distinct : (fields.map Prod.fst).Nodup)
    (member : (name, content) ∈ fields) :
    findField name (ofFields (Json.written fields)) = some (content.map ofJson) := by
  induction fields with
  | nil => cases member
  | cons field rest ih =>
      obtain ⟨first, other⟩ := field
      obtain ⟨fresh, distinct⟩ := List.nodup_cons.mp distinct
      rcases List.mem_cons.mp member with same | later
      · cases same
        apply findField_own
        apply findField_absent
        rintro ⟨key, kept⟩ inside rfl
        exact fresh (List.mem_map.mpr ⟨_, inside, rfl⟩)
      · have apart : first ≠ name := by
          rintro rfl
          exact fresh (List.mem_map.mpr ⟨_, later, rfl⟩)
        rw [findField_other apart, ih distinct later]

theorem mapM_of_each {β γ : Type} {read : β → Option γ} {write : β → γ} {items : List β}
    (each : ∀ item ∈ items, read item = some (write item)) :
    items.mapM read = some (items.map write) := by
  induction items with
  | nil => rfl
  | cons item rest ih =>
      obtain ⟨here, others⟩ := List.forall_mem_cons.mp each
      rw [List.mapM_cons, here, ih others]
      rfl

theorem record_written (distinct : (fields.map Prod.fst).Nodup) :
    record (fields.map Prod.fst) (ofJson (.object (Json.written fields))) =
      some (fields.map fun field => Field.ofField field.2) := by
  rw [ofJson, record, List.mapM_map]
  apply mapM_of_each
  intro field member
  rw [Function.comp_apply, mappingField, findField_written distinct member]
  cases field.2 <;> rfl

/-- A record is read back when each of its fields can be. -/
theorem returns_written {names : List String} {read : List Field → Option α}
    (shape : ∀ node, item node = (record names node).bind read) (distinct : names.Nodup)
    (keyed : fields.map Prod.fst = names)
    (reads : read (fields.map fun field => Field.ofField field.2) = some value) :
    Returns item (.object (Json.written fields)) value := by
  subst keyed
  rw [Returns, shape, record_written distinct, Option.bind_some, reads]

end Records

end Decoder

namespace Field

open Rollout.Yaml.Decoder (Returns)

variable {α : Type} {json : Json} {value : α} {item : Decoder α}

theorem required_ofField (returns : Returns item json value) :
    (ofField (some json)).required item = some value := returns

theorem withDefault_ofField (returns : Returns item json value) (default : α) :
    (ofField (some json)).withDefault item default = some value := returns

@[simp] theorem required_text (s : String) :
    (ofField (some (.string s))).required .text = some s :=
  required_ofField (Decoder.returns_text s)

@[simp] theorem withDefault_text (s default : String) :
    (ofField (some (.string s))).withDefault .text default = some s :=
  withDefault_ofField (Decoder.returns_text s) default

theorem nullable_ofField {write : α → Json} {value : Option α}
    (returns : ∀ v ∈ value, Returns item (write v) v)
    (named : ∀ v s, Node.ofJson (write v) = .scalar true s → isNull s = false) :
    (ofField (value.map write)).nullable item = some value := by
  cases value with
  | none => rfl
  | some v => exact Decoder.returns_option (returns v rfl) (named v)

@[simp] theorem nullable_text (text : Option String) :
    (ofField (text.map .string)).nullable .text = some text :=
  nullable_ofField (fun v _ => Decoder.returns_text v) Decoder.named_string

end Field

end Rollout.Yaml
