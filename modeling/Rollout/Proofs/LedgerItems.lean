import Rollout.Audit.Item
import Rollout.Proofs.Dictionary
import Std.Data.String.ToInt

/-!
Ledger items against the records they are made of. The item of a record is its JSON form with a
type beside each value: under every name of the one stands the text of the other. So a record can
be read back from its item, and with it the entry it was made of.
-/

namespace Rollout

namespace Json

/-- A value with its type beside it, as a table keeps it: texts as they are, others as printed. -/
def typed : Json → Json
  | .string text => .object [("S", .string text)]
  | other => .object [("N", .string other.compact)]

/-- Whole numbers are printed in decimal. -/
theorem compact_int (n : Int) : (int n).compact = toString n := by
  have printed : (int n).compact = String.ofList (printInt n) := by
    simp [compact, int, print, printNumber]
  rw [printed, printInt, Int.toString_eq_repr, Int.repr_eq_if]
  -- Both print the sign apart; what is left is the same natural number.
  by_cases negative : n < 0
  · have size : n.natAbs = (-n).toNat := by omega
    rw [if_pos negative, if_neg (by omega), Nat.repr_eq_ofList_toDigits, size,
      ← String.toList_inj]
    simp
  · have size : n.natAbs = n.toNat := by omega
    rw [if_neg negative, if_pos (by omega), Nat.repr_eq_ofList_toDigits, size]

theorem typed_int (n : Int) : (int n).typed = .object [("N", .string (toString n))] := by
  rw [← compact_int]
  rfl

end Json

namespace Attribute

/-- The value without its type. -/
def untyped : Attribute → Json
  | .text value => .string value
  | .number value => .int value

theorem toJson_typed (a : Attribute) : a.toJson = a.untyped.typed := by
  cases a with
  | text value => rfl
  | number value => simp [toJson, untyped, Json.int, Json.typed, Json.compact, Json.print,
      Json.printNumber]

/-- The text of an attribute that is one. -/
def text? : Json → Option String
  | .object [("S", .string value)] => some value
  | _ => none

/-- The number of an attribute that is one. -/
def number? : Json → Option Int
  | .object [("N", .string digits)] => digits.toInt?
  | _ => none

theorem text_typed (json : Json) : text? json.typed = json.string? := by
  cases json <;> rfl

theorem number_typed (n : Int) : number? (Json.int n).typed = some n := by
  rw [Json.typed_int]
  exact Int.toInt?_repr n

end Attribute

namespace AuditStatus

theorem ofText_text (s : AuditStatus) : ofText? s.text = some s := by
  cases s <;> rfl

end AuditStatus

namespace AuditRecord

/-- The item as it is sent to the table. -/
def sentItem (r : AuditRecord) : Dict Json := r.item.map Attribute.toJson

/-- The record an item was made of. -/
def ofItem? (item : Dict Json) : Option AuditRecord := do
  let text (name : String) := (item.get? name).bind Attribute.text?
  some {
    id := ← text "id"
    sequence := ← (item.get? "sequence").bind Attribute.number?
    origin := ← text "origin"
    platform := ← text "prefix"
    provider := ← text "environmentProviderName"
    application := ← text "appName"
    actionType := ← text "actionType"
    name := ← text "name"
    initiatedBy := ← text "initiatedBy"
    owner := ← text "owner"
    assumedRole := ← text "assumedRole"
    account := ← text "targetAccount"
    region := ← text "targetRegion"
    request := ← text "request"
    status := ← (text "status").bind AuditStatus.ofText?
    message := ← text "message"
    createdAt := ← text "createdAt" }

/-- The entry a record was made of. -/
def entry (r : AuditRecord) : AuditEntry where
  actionType := r.actionType
  actionName := r.name
  requester := r.initiatedBy
  owner := r.owner
  assumedRole := r.assumedRole
  account := r.account
  region := r.region
  platform := r.platform
  provider := r.provider
  application := r.application
  request := r.request
  status := r.status
  message := r.message

/-- The item and the JSON form of a record are two views of one list of named values. -/
theorem item_entries (r : AuditRecord) :
    ∃ entries, r.item = .ofList entries ∧ (entries.map Prod.fst).Nodup ∧
      r.toJson = .object (entries.map fun field => (field.1, field.2.untyped)) := by
  refine ⟨_, rfl, ?_, rfl⟩
  simp

theorem get?_sentItem (r : AuditRecord) (name : String) :
    r.sentItem.get? name = (r.toJson.field? name).map Json.typed := by
  obtain ⟨entries, item, distinct, json⟩ := r.item_entries
  have found : r.item.get? name = entries.lookup name := by
    have reversed := entries.reverse_perm
    rw [item, Dict.get?_ofList]
    exact Dict.lookup_perm reversed ((reversed.map Prod.fst).nodup_iff.mpr distinct) name
  have listed : r.toJson.field? name = (entries.lookup name).map Attribute.untyped := by
    rw [json]
    exact lookup_map Attribute.untyped
  rw [sentItem, Dict.get?_map, found, listed, Option.map_map]
  exact congrArg (Option.map · _) (funext Attribute.toJson_typed)

theorem keys_sentItem (r : AuditRecord) :
    ∃ fields, r.toJson = .object fields ∧ r.sentItem.keys.Perm (fields.map Prod.fst) := by
  obtain ⟨entries, item, distinct, json⟩ := r.item_entries
  refine ⟨_, json, ?_⟩
  have names : (entries.map fun field => (field.1, field.2.untyped)).map Prod.fst =
      entries.map Prod.fst := by
    rw [List.map_map]
    rfl
  -- Neither side repeats a name, so it is enough that they have the same ones.
  refine (List.perm_ext_iff_of_nodup (Dict.nodup_entries _) (names ▸ distinct)).mpr ?_
  intro name
  have listed : name ∈ r.sentItem.keys ↔ ∃ found, r.sentItem.get? name = some found :=
    Dict.mem_keys
  rw [get?_sentItem, json, Json.field?] at listed
  refine listed.trans ?_
  rw [mem_keys_iff]
  simp

theorem text_sentItem (r : AuditRecord) (name : String) :
    (r.sentItem.get? name).bind Attribute.text? = (r.toJson.field? name).bind Json.string? := by
  rw [get?_sentItem, Option.bind_map]
  exact congrArg _ (funext Attribute.text_typed)

theorem ofItem_sentItem (r : AuditRecord) : ofItem? r.sentItem = some r := by
  have sequence : (r.sentItem.get? "sequence").bind Attribute.number? = some r.sequence := by
    rw [get?_sentItem]
    exact Attribute.number_typed r.sequence
  simp only [ofItem?, text_sentItem, sequence]
  simp [toJson, Json.field?, List.lookup_cons, Json.string?, AuditStatus.toJson,
    AuditStatus.ofText_text]

theorem entry_ofEntry (e : AuditEntry) (sequence : Int) : (ofEntry e sequence).entry = e := rfl

/-- An item has the names of its record's JSON form and no others, under each of them the same text,
and the sequence value by its decimal digits. Records that differ have items that differ, since the
record can be read back from its item, and so can the entry it was made of. -/
theorem item_faithful (r : AuditRecord) :
    (∃ fields, r.toJson = .object fields ∧ r.sentItem.keys.Perm (fields.map Prod.fst)) ∧
    (∀ name, r.sentItem.get? name = (r.toJson.field? name).map Json.typed) ∧
    r.sentItem.get? "status" = some (.object [("S", .string r.status.text)]) ∧
    r.sentItem.get? "sequence" = some (.object [("N", .string (toString r.sequence))]) ∧
    ofItem? r.sentItem = some r ∧
    (∀ other : AuditRecord, r.sentItem = other.sentItem ↔ r = other) ∧
    ∀ (e : AuditEntry) (sequence : Int),
      (ofItem? (ofEntry e sequence).sentItem).map entry = some e := by
  refine ⟨r.keys_sentItem, r.get?_sentItem, ?_, ?_, r.ofItem_sentItem, ?_, ?_⟩
  · rw [get?_sentItem]
    rfl
  · rw [get?_sentItem]
    exact congrArg some (Json.typed_int r.sequence)
  · intro other
    refine ⟨fun same => ?_, congrArg sentItem⟩
    have read := r.ofItem_sentItem
    rw [same, ofItem_sentItem] at read
    exact (Option.some.inj read).symm
  · intro e sequence
    rw [ofItem_sentItem, Option.map_some, entry_ofEntry]

end AuditRecord

end Rollout
