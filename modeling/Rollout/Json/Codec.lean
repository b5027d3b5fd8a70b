import Rollout.Json.Decode

/-!
Types with a JSON form: how a value is read from a document and written as one.
-/

namespace Rollout

class Codec (α : Type) where
  decode : Decoder α
  encode : α → Json

namespace Codec

variable {α : Type} [Codec α]

instance : Codec Json := ⟨.json, id⟩

instance : Codec String := ⟨.string, .string⟩

instance : Codec Bool := ⟨.bool, .bool⟩

/-- Whole numbers of 64 bits with sign. -/
instance : Codec Int := ⟨.int64, .int⟩

/-- Whole numbers of 64 bits without sign. -/
instance : Codec Nat :=
  ⟨fun depth doc => (Decoder.int 0 (Numeral.greatest 64) depth doc).map Int.toNat, .nat⟩

instance : Codec (Option α) :=
  ⟨.option decode, fun value => (value.map encode).getD .null⟩

instance : Codec (List α) := ⟨.list decode, fun items => .array (items.map encode)⟩

instance : Codec (Dict α) := ⟨.dict decode, fun dict => .object (dict.map encode).entries⟩

end Codec

end Rollout
