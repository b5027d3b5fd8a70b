import Rollout.Yaml.Node
import Rollout.Yaml.Quoted

/-!
Lists and objects written between brackets, over as many lines as they take.
-/

namespace Rollout.Yaml

/-- Drops blanks, line breaks and comments. -/
def skipGap : Nat → List Char → List Char
  | 0, cs => cs
  | fuel + 1, cs =>
    let gap := cs.takeWhile fun c => isWhite c || c == '\n'
    match cs.drop gap.length with
    | '#' :: rest => skipGap fuel (rest.dropWhile (· != '\n'))
    | rest => rest

def skip (cs : List Char) : List Char := skipGap (cs.length + 1) cs

def isFlowMark (c : Char) : Bool := [',', '[', ']', '\x7b', '\x7d'].contains c

/-- A plain scalar cannot begin this way. -/
def startsPlain : List Char → Bool
  | [] => false
  | c :: rest =>
    if isWhite c then false
    else if ['-', '?', ':'].contains c then
      match rest.head? with
      | some next => !(isWhite next || next == '\n')
      | none => false
    else !"#,[]\x7b\x7d&*!|>'\"%@`".toList.contains c

/-- The characters of a plain scalar on one line; `flow` between brackets. -/
def plainChars (flow : Bool) : Char → List Char → List Char
  | _, [] => []
  | before, c :: rest =>
    if c == '\n' || (c == '#' && isWhite before) || (flow && isFlowMark c) then []
    else if c == ':' then
      match rest.head? with
      | none => []
      | some next =>
        if isWhite next || next == '\n' || (flow && isFlowMark next) then []
        else c :: plainChars flow c rest
    else c :: plainChars flow c rest

def trimWhite (cs : List Char) : List Char := (trimEnd cs.reverse).reverse

def readPlainFlow (cs : List Char) : Option (List Char × List Char) :=
  if startsPlain cs then
    let chars := plainChars true 'x' cs
    some (trimWhite chars, cs.drop chars.length)
  else none

def readFlowScalar (cs : List Char) : Option (Node × List Char) :=
  if cs.head? = some '"' || cs.head? = some '\'' then
    (readQuoted cs).map fun (text, rest) => (.scalar false (String.ofList text), rest)
  else (readPlainFlow cs).map fun (text, rest) => (.scalar true (String.ofList text), rest)

mutual
def readFlow : Nat → List Char → Option (Node × List Char)
  | 0, _ => none
  | fuel + 1, cs =>
    match cs with
    | '[' :: rest => (readFlowItems fuel (skip rest)).map fun (items, rest) =>
      (.sequence items, rest)
    | '\x7b' :: rest => (readFlowEntries fuel (skip rest)).map fun (entries, rest) =>
      (.mapping entries, rest)
    | cs => readFlowScalar cs

def readFlowItems : Nat → List Char → Option (List Node × List Char)
  | 0, _ => none
  | fuel + 1, cs =>
    match cs with
    | ']' :: rest => some ([], rest)
    | cs => do
      let (item, rest) ← readFlow fuel cs
      match skip rest with
      | ',' :: rest =>
        (readFlowItems fuel (skip rest)).map fun (items, rest) => (item :: items, rest)
      | ']' :: rest => some ([item], rest)
      | _ => none

def readFlowEntries : Nat → List Char → Option (List (Node × Node) × List Char)
  | 0, _ => none
  | fuel + 1, cs =>
    match cs with
    | '\x7d' :: rest => some ([], rest)
    | cs => do
      let (key, rest) ← readFlow fuel cs
      let (value, rest) ← match skip rest with
        | ':' :: rest => readFlowValue fuel (skip rest)
        | rest => some (Node.omitted, rest)
      match skip rest with
      | ',' :: rest =>
        (readFlowEntries fuel (skip rest)).map fun (entries, rest) =>
          ((key, value) :: entries, rest)
      | '\x7d' :: rest => some ([(key, value)], rest)
      | _ => none

def readFlowValue : Nat → List Char → Option (Node × List Char)
  | 0, _ => none
  | fuel + 1, cs =>
    match cs with
    | ',' :: _ => some (Node.omitted, cs)
    | '\x7d' :: _ => some (Node.omitted, cs)
    | cs => readFlow fuel cs
end

end Rollout.Yaml
