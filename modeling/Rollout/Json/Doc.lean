import Rollout.Json.Number

/-!
JSON text as it was written. A document is read without looking at what its
leaves are worth: a number out of range or an escape that names half a
surrogate pair is an error only for the reader that needs the leaf.
-/

namespace Rollout

inductive Doc where
  | null
  | bool (value : Bool)
  | number (value : Option JsonNumber)
  | string (text : Option (List Char))
  | array (items : List Doc)
  | object (fields : List (Option (List Char) × Doc))
  deriving Repr, Inhabited

namespace Doc

def text? : Doc → Option String
  | .string (some cs) => some (String.ofList cs)
  | _ => none

/-- An array with no more than `count` items. -/
def takeItems (count : Nat) : Doc → Doc
  | .array items => .array (items.take count)
  | doc => doc

/-- Arrays and objects may be nested this deep. -/
def deepest : Nat := 127

mutual
/-- The value of a document with at most `depth` further levels. -/
def toJson? (depth : Nat) : Doc → Option Json
  | .null => some .null
  | .bool b => some (.bool b)
  | .number n => n.map .number
  | .string t => t.map fun cs => .string (String.ofList cs)
  | .array items =>
    match depth with
    | 0 => none
    | depth + 1 => (itemsToJson? depth items).map .array
  | .object fields =>
    match depth with
    | 0 => none
    | depth + 1 => (fieldsToJson? depth fields).map fun found => .object (upsertAll found)

def itemsToJson? (depth : Nat) : List Doc → Option (List Json)
  | [] => some []
  | item :: rest =>
    match toJson? depth item, itemsToJson? depth rest with
    | some v, some vs => some (v :: vs)
    | _, _ => none

def fieldsToJson? (depth : Nat) :
    List (Option (List Char) × Doc) → Option (List (String × Json))
  | [] => some []
  | (key, item) :: rest =>
    match key, toJson? depth item, fieldsToJson? depth rest with
    | some k, some v, some vs => some ((String.ofList k, v) :: vs)
    | _, _, _ => none
end

mutual
def ofJson : Json → Doc
  | .null => .null
  | .bool b => .bool b
  | .number n => .number (some n)
  | .string s => .string (some s.toList)
  | .array items => .array (ofItems items)
  | .object fields => .object (ofFields fields)

def ofItems : List Json → List Doc
  | [] => []
  | item :: rest => ofJson item :: ofItems rest

def ofFields : List (String × Json) → List (Option (List Char) × Doc)
  | [] => []
  | (key, item) :: rest => (some key.toList, ofJson item) :: ofFields rest
end

end Doc

end Rollout
