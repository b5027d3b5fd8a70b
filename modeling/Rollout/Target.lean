import Rollout.Json.Codec
import Rollout.Text.CharClass
import Rollout.Validation

/-!
Where a deployment goes: an account of twelve decimal digits and a region such
as `us-east-1`. Blanks around either are dropped; a refusal shows the text as
it was given.
-/

namespace Rollout

open Text (trim trimLeft trimRight isDecimalDigit)

structure AccountId where
  text : String
  deriving DecidableEq, Repr

def isAccountId (cs : List Char) : Bool := cs.length == 12 && cs.all isDecimalDigit

def AccountId.parse (value : String) : Except ValidationError AccountId :=
  if isAccountId (trim value).toList then .ok ⟨trim value⟩
  else .error (.invalidAccountId value)

structure Region where
  text : String
  deriving DecidableEq, Repr

/-- Two letters, a word of at least four, and a number, joined by hyphens. -/
def isRegion : List Char → Bool
  | a :: b :: '-' :: rest =>
    let word := rest.takeWhile Char.isLower
    match rest.dropWhile Char.isLower with
    | '-' :: number =>
      a.isLower && b.isLower && 4 ≤ word.length && !number.isEmpty && number.all isDecimalDigit
    | _ => false
  | _ => false

def Region.parse (value : String) : Except ValidationError Region :=
  if isRegion (trim value).toList then .ok ⟨trim value⟩
  else .error (.invalidRegion value)

def AccountId.toJson (account : AccountId) : Json := .string account.text

def AccountId.decode : Decoder AccountId := fun depth doc =>
  (Decoder.string depth doc).bind fun value => (AccountId.parse value).toOption

instance : Codec AccountId := ⟨AccountId.decode, AccountId.toJson⟩

def Region.toJson (region : Region) : Json := .string region.text

def Region.decode : Decoder Region := fun depth doc =>
  (Decoder.string depth doc).bind fun value => (Region.parse value).toOption

instance : Codec Region := ⟨Region.decode, Region.toJson⟩

end Rollout
