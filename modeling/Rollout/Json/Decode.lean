import Rollout.Dict
import Rollout.Json.Reader

/-!
Typed readers of JSON documents. A record may be written as an object, whose
unknown fields are ignored and whose known ones may not repeat, or as an array
of its fields in order. Readers carry the levels of nesting still allowed.
-/

namespace Rollout

/-- Reads a value from a document that may be nested `depth` levels. -/
abbrev Decoder (α : Type) := Nat → Doc → Option α

/-- Where a record field was looked for. -/
inductive Slot where
  | found (depth : Nat) (doc : Doc)
  /-- The object does not name the field. -/
  | unnamed
  /-- The array ended before the field. -/
  | cut

namespace Decoder

variable {α : Type}

def json : Decoder Json := fun depth doc => doc.toJson? depth

def string : Decoder String := fun _ doc => doc.text?

def bool : Decoder Bool
  | _, .bool b => some b
  | _, _ => none

/-- A whole number from `low` to `high`. -/
def int (low high : Int) : Decoder Int
  | _, .number (some (.int n)) => if low ≤ n && n ≤ high then some n else none
  | _, _ => none

def int64 : Decoder Int := int (Numeral.leastSigned 64) (Numeral.greatestSigned 64)

def unit : Decoder Unit
  | _, .null => some ()
  | _, _ => none

def option (item : Decoder α) : Decoder (Option α)
  | _, .null => some none
  | depth, doc => (item depth doc).map some

def list (item : Decoder α) : Decoder (List α)
  | depth + 1, .array docs => docs.mapM (item depth)
  | _, _ => none

def entry (item : Decoder α) (depth : Nat) (field : Option (List Char) × Doc) :
    Option (String × α) :=
  match field.1, item depth field.2 with
  | some key, some value => some (String.ofList key, value)
  | _, _ => none

/-- The fields of an object, a repeated name at its first place with its last value. -/
def fields (item : Decoder α) : Decoder (List (String × α))
  | depth + 1, .object docs => (docs.mapM (entry item depth)).map upsertAll
  | _, _ => none

def dict (item : Decoder α) : Decoder (Dict α) := fun depth doc =>
  (fields item depth doc).map Dict.ofList

/-- One of a fixed set of names, alone or as the only field of an object whose value is null. -/
def variant (named : String → Option α) : Decoder α
  | _, .string (some name) => named (String.ofList name)
  | _ + 1, .object [(some name, .null)] => named (String.ofList name)
  | _, _ => none

/-- The document of the field known by `names`; more than one is a fault. -/
def findField (names : List String) : List (Option (List Char) × Doc) → Option (Option Doc)
  | [] => some none
  | (key, doc) :: rest =>
    match key, findField names rest with
    | none, _ => none
    | _, none => none
    | some key, some found =>
      if names.contains (String.ofList key) then
        match found with
        | none => some (some doc)
        | some _ => none
      else some found

def arraySlots (depth : Nat) : List (List String) → List Doc → Option (List Slot)
  | [], [] => some []
  | [], _ :: _ => none
  | _ :: names, [] => (arraySlots depth names []).map (.cut :: ·)
  | _ :: names, doc :: docs => (arraySlots depth names docs).map (.found depth doc :: ·)

def objectSlots (depth : Nat) (docs : List (Option (List Char) × Doc)) :
    List (List String) → Option (List Slot)
  | [] => some []
  | names :: rest =>
    match findField names docs, objectSlots depth docs rest with
    | some (some doc), some slots => some (.found depth doc :: slots)
    | some none, some slots => some (.unnamed :: slots)
    | _, _ => none

/-- The fields of a record, in the order of `names`; a field may have several names. -/
def record (names : List (List String)) : Decoder (List Slot)
  | depth + 1, .object docs => objectSlots depth docs names
  | depth + 1, .array docs => arraySlots depth names docs
  | _, _ => none

/-- Reads a whole text. -/
def readText (decoder : Decoder α) (text : String) : Option α :=
  (Doc.parse text).bind (decoder Doc.deepest)

/-- Reads a value that is already known to be well formed. -/
def ofJson? (decoder : Decoder α) (value : Json) : Option α := decoder 1000000 (Doc.ofJson value)

end Decoder

namespace Slot

variable {α : Type}

def required (slot : Slot) (item : Decoder α) : Option α :=
  match slot with
  | found depth doc => item depth doc
  | _ => none

/-- An absent field has the value `default`; null is not absent. -/
def withDefault (slot : Slot) (item : Decoder α) (default : α) : Option α :=
  match slot with
  | found depth doc => item depth doc
  | _ => some default

/-- Null and an unnamed field are both no value; an array has to name it. -/
def nullable (slot : Slot) (item : Decoder α) : Option (Option α) :=
  match slot with
  | found depth doc => item.option depth doc
  | unnamed => some none
  | cut => none

/-- Like `nullable`, and an array may leave it out as well. -/
def optional (slot : Slot) (item : Decoder α) : Option (Option α) :=
  match slot with
  | found depth doc => item.option depth doc
  | _ => some none

end Slot

end Rollout
