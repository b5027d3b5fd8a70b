import Rollout.Text.Split
import Rollout.Yaml.Node

/-!
The YAML text of a value: two blanks a level, lists level with the key they
belong to, empty lists and objects as brackets.
-/

namespace Rollout.Yaml

def blanks (n : Nat) : List Char := List.replicate n ' '

def upperHex (width n : Nat) : List Char :=
  let digits := (Nat.toDigits 16 n).map Char.toUpper
  List.replicate (width - digits.length) '0' ++ digits

def escapeNames : List (Char × Char) :=
  [('\x00', '0'), ('\x07', 'a'), ('\x08', 'b'), ('\t', 't'), ('\n', 'n'), ('\x0b', 'v'),
    ('\x0c', 'f'), ('\r', 'r'), ('\x1b', 'e'), ('"', '"'), ('\\', '\\'), ('\x85', 'N'),
    ('\u2028', 'L'), ('\u2029', 'P')]

def namedEscape? (c : Char) : Option Char := escapeNames.lookup c

def escapeDouble (c : Char) : List Char :=
  match namedEscape? c with
  | some name => ['\\', name]
  | none =>
    if isPrintable c then [c]
    else if c.toNat ≤ 0xff then '\\' :: 'x' :: upperHex 2 c.toNat
    else if c.toNat ≤ 0xffff then '\\' :: 'u' :: upperHex 4 c.toNat
    else '\\' :: 'U' :: upperHex 8 c.toNat

def escapeSingle (c : Char) : List Char := if c = '\'' then ['\'', '\''] else [c]

/-- Indentation of a block whose first line would hide it, and what to do with its end. -/
def blockHints (cs : List Char) : List Char :=
  let indentation := match cs.head? with
    | some c => if isSpace c || isBreak c then ['2'] else []
    | none => []
  let ending := match cs.reverse with
    | '\n' :: before :: _ => if isBreak before then ['+'] else []
    | ['\n'] => ['+']
    | _ => ['-']
  indentation ++ ending

def blockLines (indent : Nat) (cs : List Char) : List Char :=
  let body := (Text.splitAll '\n' cs).map fun line =>
    if line.isEmpty then [] else blanks indent ++ line
  ['\n'].intercalate body

/-- A scalar of a collection at an indentation. -/
def printText (style : Style) (indent : Nat) (s : String) : List Char :=
  let cs := s.toList
  match style with
  | .plain => cs
  | .singleQuoted => '\'' :: cs.flatMap escapeSingle ++ ['\'']
  | .doubleQuoted => '"' :: cs.flatMap escapeDouble ++ ['"']
  | .literal =>
    let body := blockLines (indent + 2) cs
    '|' :: blockHints cs ++ '\n' :: (if cs.getLast? = some '\n' then body.dropLast else body)

def printScalar (indent : Nat) : Json → List Char
  | .string s => printText (.ofText s) indent s
  | .array _ => ['[', ']']
  | .object _ => ['\x7b', '\x7d']
  | other => Json.print other

def printKey (indent : Nat) (key : String) : List Char := printText (.ofText key) indent key

mutual
/-- The entries of an object; `lead` comes before the first. -/
def printFields (indent : Nat) (lead : List Char) : List (String × Json) → List Char
  | [] => []
  | (key, value) :: rest =>
    lead
      ++ (if isSimpleKey key then printKey indent key ++ ':' :: printMember indent value
        else '?' :: ' ' :: printKey indent key ++ '\n' :: blanks indent ++ ':' :: ' '
          :: printItem (indent + 2) value)
      ++ printFields indent (blanks indent) rest

/-- The value after a key. -/
def printMember (indent : Nat) : Json → List Char
  | .array (item :: rest) => '\n' :: printItems indent (item :: rest)
  | .object (field :: rest) =>
    '\n' :: printFields (indent + 2) (blanks (indent + 2)) (field :: rest)
  | .null => ' ' :: printScalar indent .null ++ ['\n']
  | .bool b => ' ' :: printScalar indent (.bool b) ++ ['\n']
  | .number n => ' ' :: printScalar indent (.number n) ++ ['\n']
  | .string s => ' ' :: printScalar indent (.string s) ++ ['\n']
  | .array [] => ' ' :: printScalar indent (.array []) ++ ['\n']
  | .object [] => ' ' :: printScalar indent (.object []) ++ ['\n']

def printItems (indent : Nat) : List Json → List Char
  | [] => []
  | item :: rest =>
    blanks indent ++ '-' :: ' ' :: printItem (indent + 2) item ++ printItems indent rest

/-- The value after a dash, or after the colon of a marked key. -/
def printItem (indent : Nat) : Json → List Char
  | .array (item :: rest) =>
    '-' :: ' ' :: printItem (indent + 2) item ++ printItems indent rest
  | .object (field :: rest) => printFields indent [] (field :: rest)
  | .null => printScalar (indent - 2) .null ++ ['\n']
  | .bool b => printScalar (indent - 2) (.bool b) ++ ['\n']
  | .number n => printScalar (indent - 2) (.number n) ++ ['\n']
  | .string s => printScalar (indent - 2) (.string s) ++ ['\n']
  | .array [] => printScalar (indent - 2) (.array []) ++ ['\n']
  | .object [] => printScalar (indent - 2) (.object []) ++ ['\n']
end

def print : Json → String
  | .array (item :: rest) => String.ofList (printItems 0 (item :: rest))
  | .object (field :: rest) => String.ofList (printFields 0 [] (field :: rest))
  | other => String.ofList (printScalar 0 other ++ ['\n'])

end Rollout.Yaml
