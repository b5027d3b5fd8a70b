import Mathlib.Data.List.Nodup
import Rollout.Json.Codec
import Rollout.Proofs.JsonText
import Rollout.Proofs.OutputAgreement
import Rollout.Proofs.TimeReading

/-!
Decoders against what is written. `Returns` is the contract of one part of a
document; a record is read back when its parts are and when no field is known
by the name of another.
-/

namespace Rollout

open Doc (ofJson ofFields)

/-- The fields that have a value. -/
def Json.written (fields : List (String × Option Json)) : List (String × Json) :=
  fields.flatMap fun field => Json.optional field.1 field.2

/-- Where a written field is found again. -/
def Slot.ofField (depth : Nat) : Option Json → Slot
  | some json => .found depth (ofJson json)
  | none => .unnamed

namespace Decoder

variable {α : Type} {depth allowed : Nat} {json : Json} {value : α} {item : Decoder α}

/-- What `json` says, in at most `depth` levels, is read as `value`. -/
structure Returns (item : Decoder α) (depth : Nat) (json : Json) (value : α) : Prop where
  plain : json.Plain depth
  reads : ∀ {allowed}, depth ≤ allowed → item allowed (ofJson json) = some value

theorem Returns.mono (returns : Returns item depth json value) (within : depth ≤ allowed) :
    Returns item allowed json value :=
  ⟨returns.plain.mono within, fun enough => returns.reads (Nat.le_trans within enough)⟩

/-- The whole printed text is read as the value. -/
theorem Returns.readText (returns : Returns item depth json value) (within : depth ≤ Doc.deepest) :
    item.readText json.compact = some value := by
  rw [Decoder.readText, Doc.parse_compact returns.plain, Option.bind_some, returns.reads within]

section Parts

theorem returns_json (plain : json.Plain depth) : Returns .json depth json json :=
  ⟨plain, fun within => Doc.toJson?_ofJson plain within⟩

theorem returns_string (text : String) : Returns .string depth (.string text) text :=
  ⟨.string text, fun _ => by simp [Decoder.string, ofJson, Doc.text?]⟩

theorem returns_int64 (depth : Nat) {n : Int} (least : Numeral.leastSigned 64 ≤ n)
    (greatest : n ≤ Numeral.greatestSigned 64) : Returns .int64 depth (.int n) n := by
  have signed : Numeral.greatestSigned 64 ≤ Numeral.greatest 64 := by decide
  refine ⟨.int n least (Int.le_trans greatest signed), fun _ => ?_⟩
  simp [int64, int, Json.int, ofJson, least, greatest]

theorem returns_instant (depth : Nat) {t : Time.Instant} (common : t.Common) :
    Returns .instant depth (.instant t) t :=
  ⟨.string _, fun _ => by
    simp [Decoder.instant, Json.instant, Decoder.string, ofJson, Doc.text?,
      Time.Instant.parse_rfc3339 common]⟩

/-- A value of a fixed set is written by its name. -/
theorem returns_variant {named : String → Option α} {name : String}
    (known : named name = some value) : Returns (.variant named) depth (.string name) value :=
  ⟨.string name, fun _ => by simp [variant, ofJson, known]⟩

theorem returns_list {write : α → Json} {items : List α}
    (each : ∀ value ∈ items, Returns item depth (write value) value) :
    Returns (.list item) (depth + 1) (.array (items.map write)) items := by
  refine ⟨Json.plain_map write fun value member => (each value member).plain, ?_⟩
  intro allowed within
  obtain ⟨allowed, rfl⟩ := Nat.exists_eq_add_one.mpr (Nat.zero_lt_of_lt within)
  rw [ofJson, Decoder.list, Doc.ofItems_eq, List.map_map]
  exact mapM_map_of_inverse fun value member =>
    (each value member).reads (Nat.le_of_succ_le_succ within)

theorem returns_dict {write : α → Json} {dict : Dict α}
    (each : ∀ field ∈ dict.entries, Returns item depth (write field.2) field.2) :
    Returns (.dict item) (depth + 1) (.object (dict.map write).entries) dict := by
  constructor
  · refine .object (Dict.nodup_entries _) ?_
    intro field member
    obtain ⟨entry, inside, rfl⟩ := List.mem_map.mp member
    exact (each entry inside).plain
  · intro allowed within
    obtain ⟨allowed, rfl⟩ := Nat.exists_eq_add_one.mpr (Nat.zero_lt_of_lt within)
    have entries : ((dict.map write).entries.map fun field =>
        (some field.1.toList, ofJson field.2)).mapM (entry item allowed) = some dict.entries := by
      rw [Dict.map, List.map_map]
      apply mapM_map_of_inverse
      intro field member
      simp [entry, (each field member).reads (Nat.le_of_succ_le_succ within)]
    -- The names differ, so entering one field after the other overwrites none.
    have distinct := Dict.nodup_entries dict
    have same : Dict.ofList dict.entries = dict := by
      apply Dict.ext_get?
      intro name
      rw [Dict.get?_ofList, Dict.lookup_reverse]
    rw [ofJson, Decoder.dict, fields, Doc.ofFields_eq, entries, Option.map_some,
      upsertAll_of_nodup distinct, Option.map_some, same]

end Parts

section Records

/-- A field is written under the first of its names. -/
def keyOf (known : List String) : String := known.headD ""

/-- No two fields are written alike, and none is known by the key of another. -/
def Named (names : List (List String)) : Prop :=
  (names.map keyOf).Nodup ∧
    ∀ known ∈ names, ∀ other ∈ names.map keyOf, known.contains other = (other == keyOf known)

instance (names : List (List String)) : Decidable (Named names) :=
  inferInstanceAs (Decidable (_ ∧ _))

variable {fields : List (String × Option Json)}

theorem written_cons (key : String) (json : Json) :
    Json.written ((key, some json) :: fields) = (key, json) :: Json.written fields := rfl

variable {known : List String} {key : String} {content : Option Json}

theorem findField_other (other : known.contains key = false) :
    findField known (ofFields (Json.written ((key, content) :: fields))) =
      findField known (ofFields (Json.written fields)) := by
  cases content with
  | none => rfl
  | some json =>
      rw [written_cons, ofFields]
      conv_lhs => unfold findField
      cases findField known (ofFields (Json.written fields)) with
      | none => rfl
      | some found =>
          simp only [String.ofList_toList, other]
          rfl

theorem findField_own (own : known.contains key = true)
    (later : findField known (ofFields (Json.written fields)) = some none) :
    findField known (ofFields (Json.written ((key, content) :: fields))) =
      some (content.map ofJson) := by
  cases content with
  | none => exact later
  | some json =>
      rw [written_cons, ofFields]
      unfold findField
      simp only [String.ofList_toList, own, later]
      rfl

theorem findField_absent (absent : ∀ field ∈ fields, known.contains field.1 = false) :
    findField known (ofFields (Json.written fields)) = some none := by
  induction fields with
  | nil => rfl
  | cons field rest ih =>
      rw [findField_other (absent field List.mem_cons_self)]
      exact ih fun field member => absent field (List.mem_cons_of_mem _ member)

/-- Of a list of fields the only one with a known name is found, if it is written. -/
theorem findField_written (distinct : (fields.map Prod.fst).Nodup) (member : (key, content) ∈ fields)
    (only : ∀ other ∈ fields.map Prod.fst, known.contains other = (other == key)) :
    findField known (ofFields (Json.written fields)) = some (content.map ofJson) := by
  induction fields with
  | nil => cases member
  | cons field rest ih =>
      obtain ⟨first, other⟩ := field
      obtain ⟨fresh, distinct⟩ := List.nodup_cons.mp distinct
      simp only [List.map_cons, List.forall_mem_cons] at only
      obtain ⟨here, only⟩ := only
      rcases List.mem_cons.mp member with same | later
      · obtain ⟨rfl, rfl⟩ := Prod.mk.inj same
        rw [beq_self_eq_true] at here
        -- A later field of a known name would have this key once more.
        apply findField_own here
        apply findField_absent
        intro field member
        have inside := List.mem_map_of_mem (f := Prod.fst) member
        rw [only _ inside, beq_eq_false_iff_ne]
        intro again
        exact fresh (again ▸ inside)
      · have apart : first ≠ key := by
          rintro rfl
          exact fresh (List.mem_map.mpr ⟨_, later, rfl⟩)
        rw [beq_eq_false_iff_ne.mpr apart] at here
        rw [findField_other here, ih distinct later only]

theorem objectSlots_written (distinct : (fields.map Prod.fst).Nodup)
    {part : List (String × Option Json)} (within : part ⊆ fields) {names : List (List String)}
    (keyed : part.map Prod.fst = names.map keyOf)
    (named : ∀ known ∈ names, ∀ other ∈ fields.map Prod.fst,
      known.contains other = (other == keyOf known)) :
    objectSlots depth (ofFields (Json.written fields)) names =
      some (part.map fun field => Slot.ofField depth field.2) := by
  induction names generalizing part with
  | nil =>
      obtain rfl := List.map_eq_nil_iff.mp keyed
      rfl
  | cons known names ih =>
      obtain ⟨⟨first, content⟩, rest, rfl, rfl, others⟩ := List.map_eq_cons_iff.mp keyed
      have slots := ih (fun field member => within (List.mem_cons_of_mem _ member)) others
        fun known member => named known (List.mem_cons_of_mem _ member)
      have found := findField_written distinct (within List.mem_cons_self)
        (named known List.mem_cons_self)
      rw [objectSlots, found, slots]
      cases content <;> rfl

theorem record_written {names : List (List String)} (keyed : fields.map Prod.fst = names.map keyOf)
    (named : Named names) :
    record names (depth + 1) (ofJson (.object (Json.written fields))) =
      some (fields.map fun field => Slot.ofField depth field.2) := by
  obtain ⟨distinct, named⟩ := named
  rw [← keyed] at distinct named
  rw [ofJson, record]
  exact objectSlots_written distinct (fun _ member => member) keyed named

theorem plain_written (distinct : (fields.map Prod.fst).Nodup)
    (plain : ∀ field ∈ fields, ∀ json ∈ field.2, json.Plain depth) :
    Json.Plain (depth + 1) (.object (Json.written fields)) := by
  have keys : (Json.written fields).map Prod.fst =
      (fields.filter fun field => field.2.isSome).map Prod.fst := by
    induction fields with
    | nil => rfl
    | cons field rest ih =>
        have others := ih (List.nodup_cons.mp distinct).2 fun field member =>
          plain field (List.mem_cons_of_mem _ member)
        obtain ⟨key, _ | json⟩ := field
        · exact others
        · exact congrArg (key :: ·) others
  refine .object (keys ▸ distinct.sublist (List.filter_sublist.map _)) ?_
  intro field member
  obtain ⟨⟨key, value⟩, inside, here⟩ := List.mem_flatMap.mp member
  cases value with
  | none => cases here
  | some json =>
      obtain rfl := List.mem_singleton.mp here
      exact plain _ inside json rfl

/-- A record is read back when each of its fields can be. -/
theorem returns_written {names : List (List String)} {read : List Slot → Option α}
    (shape : ∀ allowed doc, item allowed doc = (record names allowed doc).bind read)
    (named : Named names) (keyed : fields.map Prod.fst = names.map keyOf)
    (plain : ∀ field ∈ fields, ∀ json ∈ field.2, json.Plain depth)
    (reads : ∀ {allowed}, depth ≤ allowed →
      read (fields.map fun field => Slot.ofField allowed field.2) = some value) :
    Returns item (depth + 1) (.object (Json.written fields)) value := by
  refine ⟨plain_written (keyed ▸ named.1) plain, ?_⟩
  intro allowed within
  obtain ⟨allowed, rfl⟩ := Nat.exists_eq_add_one.mpr (Nat.zero_lt_of_lt within)
  rw [shape, record_written keyed named, Option.bind_some]
  exact reads (Nat.le_of_succ_le_succ within)

theorem written_full (entries : List (String × Json)) :
    Json.written (entries.map fun field => (field.1, some field.2)) = entries := by
  induction entries with
  | nil => rfl
  | cons field rest ih => exact congrArg (field :: ·) ih

/-- A record that always has all of its fields. -/
theorem returns_record {entries : List (String × Json)} {names : List (List String)}
    {read : List Slot → Option α}
    (shape : ∀ allowed doc, item allowed doc = (record names allowed doc).bind read)
    (named : Named names) (keyed : entries.map Prod.fst = names.map keyOf)
    (plain : ∀ field ∈ entries, field.2.Plain depth)
    (reads : ∀ {allowed}, depth ≤ allowed →
      read (entries.map fun field => Slot.ofField allowed (some field.2)) = some value) :
    Returns item (depth + 1) (.object entries) value := by
  rw [← written_full entries]
  refine returns_written shape named ?_ ?_ ?_
  · rw [List.map_map]
    exact keyed
  · intro field member json here
    obtain ⟨entry, inside, rfl⟩ := List.mem_map.mp member
    obtain rfl := Option.some.inj here
    exact plain entry inside
  · intro allowed within
    rw [List.map_map]
    exact reads within

end Records

end Decoder

namespace Slot

open Decoder (Returns)

variable {α : Type} {depth allowed : Nat} {json : Json} {value : α} {item : Decoder α}

theorem required_ofField (returns : Returns item depth json value) (within : depth ≤ allowed) :
    (ofField allowed (some json)).required item = some value :=
  returns.reads within

@[simp] theorem required_string (allowed : Nat) (text : String) :
    (ofField allowed (some (.string text))).required .string = some text :=
  required_ofField (Decoder.returns_string text) (Nat.le_refl _)

theorem withDefault_ofField (returns : Returns item depth json value) (within : depth ≤ allowed)
    (default : α) : (ofField allowed (some json)).withDefault item default = some value :=
  returns.reads within

theorem option_ofJson (returns : Returns item depth json value) (within : depth ≤ allowed)
    (present : json ≠ .null) : item.option allowed (ofJson json) = some (some value) := by
  have reads := returns.reads within
  cases json with
  | null => exact absurd rfl present
  | bool | number | string | array | object =>
      rw [ofJson] at reads ⊢
      rw [Decoder.option, reads]
      · rfl
      · rintro ⟨⟩

theorem optional_ofField {write : α → Json} {value : Option α}
    (returns : ∀ v ∈ value, Returns item depth (write v) v) (within : depth ≤ allowed)
    (present : ∀ v, write v ≠ .null) :
    (ofField allowed (value.map write)).optional item = some value := by
  cases value with
  | none => rfl
  | some v => exact option_ofJson (returns v rfl) within (present v)

theorem nullable_ofField {write : α → Json} {value : Option α}
    (returns : ∀ v ∈ value, Returns item depth (write v) v) (within : depth ≤ allowed)
    (present : ∀ v, write v ≠ .null) :
    (ofField allowed (value.map write)).nullable item = some value := by
  cases value with
  | none => rfl
  | some v => exact option_ofJson (returns v rfl) within (present v)

@[simp] theorem optional_string (allowed : Nat) (text : Option String) :
    (ofField allowed (text.map .string)).optional .string = some text :=
  optional_ofField (fun v _ => Decoder.returns_string v) (Nat.zero_le _) (by rintro _ ⟨⟩)

@[simp] theorem nullable_string (allowed : Nat) (text : Option String) :
    (ofField allowed (text.map .string)).nullable .string = some text :=
  nullable_ofField (fun v _ => Decoder.returns_string v) (Nat.zero_le _) (by rintro _ ⟨⟩)

end Slot

end Rollout
