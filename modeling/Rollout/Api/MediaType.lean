import Rollout.Text.Split

/-!
Media types as the `Content-Type` header gives them: type, subtype and
parameters, where a value may be quoted.
-/

namespace Rollout.Api

/-- Type and subtype in small letters. -/
structure MediaType where
  main : String
  sub : String
  deriving DecidableEq, Repr

namespace MediaType

def isTokenChar (c : Char) : Bool :=
  c.isAlphanum || "!#$%&'*+-.^_`|~".toList.contains c

/-- Characters a quoted value may hold, apart from the quote that ends it. -/
def isQuotedChar (c : Char) : Bool := 0x20 ≤ c.toNat && c.toNat < 0x7f

def isToken (cs : List Char) : Bool := !cs.isEmpty && cs.all isTokenChar

def isToken? (cs : List Char) : Option (List Char) := if isToken cs then some cs else none

/-- What follows a quoted value: blanks, then the end or the next parameter. -/
def afterQuoted (cs : List Char) : Option (List Char) :=
  match cs.dropWhile (· == ' ') with
  | [] => some []
  | ';' :: rest => some rest
  | _ => none

/-- The text after one parameter `name=value`. -/
def afterParameter (cs : List Char) : Option (List Char) := do
  let name := cs.takeWhile isTokenChar
  if name.isEmpty then none
  match cs.drop name.length with
  | '=' :: '"' :: value =>
    let quoted := value.takeWhile fun c => c != '"' && isQuotedChar c
    match value.drop quoted.length with
    | '"' :: rest => if quoted.isEmpty then none else afterQuoted rest
    | _ => none
  | '=' :: value =>
    let plain := value.takeWhile isTokenChar
    match value.drop plain.length with
    | [] => some []
    | ';' :: rest => if plain.isEmpty then none else some rest
    | _ => none
  | _ => none

def validParameters : Nat → List Char → Bool
  | 0, cs => cs.isEmpty
  | fuel + 1, cs =>
    match cs.dropWhile (· == ' ') with
    | [] => true
    | first :: rest =>
      match afterParameter (first :: rest) with
      | some left => validParameters fuel left
      | none => false

def lower (cs : List Char) : String := String.ofList (cs.map Char.toLower)

def parse? (text : String) : Option MediaType := do
  let (main, rest) ← Text.splitOnce '/' text.toList
  let (sub, parameters) := (Text.splitOnce ';' rest).getD (rest, [])
  if isToken main && isToken sub && validParameters parameters.length parameters then
    some ⟨lower main, lower sub⟩
  else none

/-- The part of the subtype after its last `+`. -/
def suffix? (m : MediaType) : Option String :=
  match Text.splitOnce '+' m.sub.toList.reverse with
  | some (last, _) => some (String.ofList last.reverse)
  | none => none

def isJson (m : MediaType) : Bool :=
  m.main == "application" && (m.sub == "json" || m.suffix? == some "json")

end MediaType

end Rollout.Api
