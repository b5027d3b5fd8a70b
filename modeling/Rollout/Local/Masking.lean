import Rollout.Json.Basic

/-!
Texts and values with the parts blanked out that differ from run to run: times,
random identifiers, and the words of a parser or of a remote service.
-/

namespace Rollout.Local.Masking

def takeAll (count : Nat) (fits : Char → Bool) (cs : List Char) : Option (List Char) :=
  if (cs.take count).length = count && (cs.take count).all fits then some (cs.drop count) else none

/-- The text after one piece per entry: that many characters of the kind, then the mark. -/
def takePieces (fits : Char → Bool) : List (Nat × Option Char) → List Char → Option (List Char)
  | [], cs => some cs
  | (count, mark) :: pieces, cs => do
    let cs ← takeAll count fits cs
    match mark, cs with
    | none, cs => takePieces fits pieces cs
    | some c, first :: rest => if first = c then takePieces fits pieces rest else none
    | some _, [] => none

/-- The text after a time in UTC such as `2026-03-01T12:00:00.123Z`. -/
def afterTime? (cs : List Char) : Option (List Char) := do
  let cs ← takePieces Char.isDigit
    [(4, some '-'), (2, some '-'), (2, some 'T'), (2, some ':'), (2, some ':'), (2, none)] cs
  let cs := match cs with
    | '.' :: rest => rest.dropWhile Char.isDigit
    | _ => cs
  match cs with
  | 'Z' :: rest => some rest
  | '+' :: '0' :: '0' :: ':' :: '0' :: '0' :: rest => some rest
  | _ => none

def isHex (c : Char) : Bool := c.isDigit || ('a' ≤ c && c ≤ 'f')

def afterIdentifier? : List Char → Option (List Char) :=
  takePieces isHex [(8, some '-'), (4, some '-'), (4, some '-'), (4, some '-'), (12, none)]

/-- After these words the rest of a text is a parser's. -/
def parserMarks : List (List Char) :=
  ["is not a valid deployment output document: ", "invalid execution input: "].map String.toList

/-- Works through at most `fuel` parts of a text; what was written so far is reversed. -/
def chars : Nat → List Char → List Char → List Char
  | 0, cs, written => written.reverse ++ cs
  | fuel + 1, cs, written =>
    match afterTime? cs, afterIdentifier? cs, parserMarks.find? fun mark => mark.isPrefixOf cs with
    | some rest, _, _ => chars fuel rest ("<time>".toList.reverse ++ written)
    | _, some rest, _ => chars fuel rest ("<uuid>".toList.reverse ++ written)
    | _, _, some mark => written.reverse ++ mark ++ "<json>".toList
    | _, _, _ =>
      match cs with
      | [] => written.reverse
      | c :: rest => chars fuel rest (c :: written)

def text (s : String) : String := String.ofList (chars s.length s.toList [])

/-- The words a remote service's own explanation begins with. -/
def serviceMarks : List (List Char) :=
  ["service error", "response error", "dispatch failure"].map String.toList

def startsExplanation (cs : List Char) : Bool := serviceMarks.any (·.isPrefixOf cs)

/-- A message without a remote service's explanation of it. -/
def unexplained (s : String) : String := String.ofList (cut s.toList)
where
  cut : List Char → List Char
    | [] => []
    | c :: rest =>
      match c, rest with
      | ':', ' ' :: after => if startsExplanation after then [] else c :: cut rest
      | _, _ => c :: cut rest

/-- A text whose explanations are blanked out up to the end of their lines. -/
def explanations (s : String) : String := String.ofList (keep s.toList)
where
  keep : List Char → List Char
    | [] => []
    | c :: rest =>
      if startsExplanation (c :: rest) then "<sdk>".toList ++ skip rest else c :: keep rest
  skip : List Char → List Char
    | [] => []
    | c :: rest => if c = '\n' then c :: keep rest else skip rest

mutual
def value : Json → Json
  | .string s => .string (text s)
  | .array items => .array (values items)
  | .object fields => .object (entries fields)
  | other => other

def values : List Json → List Json
  | [] => []
  | item :: rest => value item :: values rest

def entries : List (String × Json) → List (String × Json)
  | [] => []
  | (key, item) :: rest => (text key, value item) :: entries rest
end

end Rollout.Local.Masking
