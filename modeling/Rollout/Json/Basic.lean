import Rollout.Numeral.Shortest

/-!
JSON values. An object keeps its fields in the order they were written; writing
a field again keeps its place and replaces its value.
-/

namespace Rollout

/-- A whole number of 64 bits, signed or not, or else a binary floating-point number. -/
inductive JsonNumber where
  | int (value : Int)
  | float (value : Numeral.Double)
  deriving DecidableEq, Repr

inductive Json where
  | null
  | bool (value : Bool)
  | number (value : JsonNumber)
  | string (value : String)
  | array (items : List Json)
  | object (fields : List (String × Json))
  deriving Repr, Inhabited

/-- Keeps the place of a key that is already there. -/
def upsert {α : Type} (key : String) (value : α) : List (String × α) → List (String × α)
  | [] => [(key, value)]
  | (k, v) :: rest => if k = key then (key, value) :: rest else (k, v) :: upsert key value rest

def upsertAll {α : Type} (fields : List (String × α)) : List (String × α) :=
  fields.foldl (fun known field => upsert field.1 field.2 known) []

namespace Json

def int (value : Int) : Json := .number (.int value)

def nat (value : Nat) : Json := .int value

def field? (key : String) : Json → Option Json
  | .object fields => fields.lookup key
  | _ => none

def string? : Json → Option String
  | .string s => some s
  | _ => none

/-- Fields written only when they have a value. -/
def optional (key : String) (value : Option Json) : List (String × Json) :=
  match value with
  | some v => [(key, v)]
  | none => []

end Json

end Rollout
