import Rollout.Json.Basic

/-!
The text of a JSON value: without blanks, or pretty with two blanks a level.
Only quote, backslash and the control characters below U+0020 are escaped.
-/

namespace Rollout.Json

def hexDigit (n : Nat) : Char := Nat.digitChar n

def escapeChar (c : Char) : List Char :=
  if c = '"' then ['\\', '"']
  else if c = '\\' then ['\\', '\\']
  else if c = '\n' then ['\\', 'n']
  else if c = '\r' then ['\\', 'r']
  else if c = '\t' then ['\\', 't']
  else if c = '\x08' then ['\\', 'b']
  else if c = '\x0c' then ['\\', 'f']
  else if c.toNat < 0x20 then
    ['\\', 'u', '0', '0', hexDigit (c.toNat / 16), hexDigit (c.toNat % 16)]
  else [c]

def printString (s : String) : List Char := '"' :: s.toList.flatMap escapeChar ++ ['"']

def printInt (n : Int) : List Char :=
  if n < 0 then '-' :: Nat.toDigits 10 n.natAbs else Nat.toDigits 10 n.natAbs

def printNumber : JsonNumber → List Char
  | .int n => printInt n
  | .float x => x.text

mutual
def print : Json → List Char
  | .null => ['n', 'u', 'l', 'l']
  | .bool true => ['t', 'r', 'u', 'e']
  | .bool false => ['f', 'a', 'l', 's', 'e']
  | .number n => printNumber n
  | .string s => printString s
  | .array [] => ['[', ']']
  | .array (item :: rest) => '[' :: print item ++ printItems rest ++ [']']
  | .object [] => ['\x7b', '\x7d']
  | .object ((key, value) :: rest) =>
    '\x7b' :: printString key ++ ':' :: print value ++ printFields rest ++ ['\x7d']

def printItems : List Json → List Char
  | [] => []
  | item :: rest => ',' :: print item ++ printItems rest

def printFields : List (String × Json) → List Char
  | [] => []
  | (key, value) :: rest => ',' :: printString key ++ ':' :: print value ++ printFields rest
end

def compact (value : Json) : String := String.ofList (print value)

def newLine (depth : Nat) : List Char := '\n' :: List.replicate (2 * depth) ' '

mutual
def printPretty (depth : Nat) : Json → List Char
  | .array (item :: rest) =>
    '[' :: newLine (depth + 1) ++ printPretty (depth + 1) item
      ++ prettyItems (depth + 1) rest ++ newLine depth ++ [']']
  | .object ((key, value) :: rest) =>
    '\x7b' :: newLine (depth + 1) ++ printString key ++ ':' :: ' '
      :: printPretty (depth + 1) value ++ prettyFields (depth + 1) rest ++ newLine depth ++ ['\x7d']
  | .array [] => ['[', ']']
  | .object [] => ['\x7b', '\x7d']
  | .null => print .null
  | .bool b => print (.bool b)
  | .number n => print (.number n)
  | .string s => print (.string s)

def prettyItems (depth : Nat) : List Json → List Char
  | [] => []
  | item :: rest => ',' :: newLine depth ++ printPretty depth item ++ prettyItems depth rest

def prettyFields (depth : Nat) : List (String × Json) → List Char
  | [] => []
  | (key, value) :: rest =>
    ',' :: newLine depth ++ printString key ++ ':' :: ' ' :: printPretty depth value
      ++ prettyFields depth rest
end

def pretty (value : Json) : String := String.ofList (printPretty 0 value)

/-- How a value is carried as text: a string as it is, anything else as compact JSON. -/
def asText : Json → String
  | .string s => s
  | other => other.compact

end Rollout.Json
