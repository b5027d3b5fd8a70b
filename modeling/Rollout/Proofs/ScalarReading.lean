import Mathlib.Data.List.Induction
import Mathlib.Data.List.TakeWhile
import Rollout.Proofs.JsonText

/-!
What a text says about the value read from it. Where the value is null, a truth value or a
whole number, the text is the printed value with blanks around it at most: no zeros can
stand in front of a number, so it has one row of digits.
-/

namespace Rollout

namespace Json

/-- Values that are neither texts nor lists of others. -/
inductive Scalar : Json → Prop
  | null : Scalar .null
  | bool (value : Bool) : Scalar (.bool value)
  | number (value : JsonNumber) : Scalar (.number value)

/-- Scalars that are written in one way only, blanks around them apart. -/
inductive Exact : Json → Prop
  | null : Exact .null
  | bool (value : Bool) : Exact (.bool value)
  | int (value : Int) (least : Numeral.leastSigned 64 ≤ value)
      (greatest : value ≤ Numeral.greatest 64) : Exact (.number (.int value))

variable {value : Json}

theorem Exact.plain (exact_ : value.Exact) (depth : Nat) : value.Plain depth := by
  cases exact_ with
  | null => exact .null
  | bool value => exact .bool value
  | int value least greatest => exact .int value least greatest

theorem Exact.asText (exact_ : value.Exact) : value.asText = value.compact := by
  cases exact_ <;> rfl

end Json

section Digits

open NumberLiteral (digit natOf)

end Digits

namespace Doc

/-- Nothing but what is skipped between the parts of a document. -/
def Blank (cs : List Char) : Prop := ∀ c ∈ cs, isSpace c = true

section Parts

variable {cs digits rest : List Char} {l : NumberLiteral}

theorem skip_split (cs : List Char) : ∃ blanks, Blank blanks ∧ cs = blanks ++ skip cs :=
  ⟨cs.takeWhile isSpace, fun _ member => List.mem_takeWhile_imp member,
    List.takeWhile_append_dropWhile.symm⟩

theorem blank_of_skip (nothing : skip cs = []) : Blank cs :=
  List.dropWhile_eq_nil_iff.mp nothing

end Parts

end Doc

namespace NumberLiteral

variable {l : NumberLiteral} {n : Int}

end NumberLiteral

namespace Doc

/-- What a document can be read from: a word, the literal of a number, or something that is no
scalar. -/
inductive Spelled (cs : List Char) : Doc → List Char → Prop
  | null {rest : List Char} (front : cs = Json.print .null ++ rest) : Spelled cs .null rest
  | bool {rest : List Char} (value : Bool) (front : cs = Json.print (.bool value) ++ rest) :
      Spelled cs (.bool value) rest
  | number {l : NumberLiteral} {rest : List Char} (literal : readLiteral cs = some (l, rest)) :
      Spelled cs (.number l.value?) rest
  | string (text : Option (List Char)) (rest : List Char) : Spelled cs (.string text) rest
  | array (items : List Doc) (rest : List Char) : Spelled cs (.array items) rest
  | object (fields : List (Option (List Char) × Doc)) (rest : List Char) :
      Spelled cs (.object fields) rest

theorem readValue_some {fuel : Nat} {cs rest : List Char} {doc : Doc}
    (read : readValue fuel cs = some (doc, rest)) : Spelled (skip cs) doc rest := by
  cases fuel with
  | zero => cases read
  | succ fuel =>
      unfold readValue at read
      split at read
      · rename_i front
        cases read
        exact .null front
      · rename_i front
        cases read
        exact .bool true front
      · rename_i front
        cases read
        exact .bool false front
      · obtain ⟨_, _, same⟩ := Option.map_eq_some_iff.mp read
        cases same
        exact .string ..
      · split at read
        · cases read
          exact .array ..
        · obtain ⟨_, _, same⟩ := Option.map_eq_some_iff.mp read
          cases same
          exact .array ..
      · split at read
        · cases read
          exact .object ..
        · obtain ⟨_, _, same⟩ := Option.map_eq_some_iff.mp read
          cases same
          exact .object ..
      · obtain ⟨_, literal, same⟩ := Option.map_eq_some_iff.mp read
        cases same
        exact .number literal

theorem parseChars_some {cs : List Char} {doc : Doc} (read : parseChars cs = some doc) :
    ∃ before rest, Blank before ∧ cs = before ++ skip cs ∧ Spelled (skip cs) doc rest ∧
      Blank rest := by
  obtain ⟨before, blank, split⟩ := skip_split cs
  unfold parseChars at read
  split at read
  · rename_i front
    cases read
    obtain ⟨⟨_, rest⟩, value, same⟩ := Option.map_eq_some_iff.mp front
    obtain ⟨rfl, nothing⟩ := Prod.mk.inj same
    exact ⟨before, rest, blank, split, readValue_some value, blank_of_skip nothing⟩
  · cases read

end Doc

open Doc (Blank)

end Rollout
