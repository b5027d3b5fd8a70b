import Rollout.Json.Doc

/-!
Reading JSON text. The fuel of the readers is bounded by the length of the
text: every level of nesting consumes at least one character.
-/

namespace Rollout

namespace Doc

def isSpace (c : Char) : Bool := c == ' ' || c == '\n' || c == '\t' || c == '\r'

def skip (cs : List Char) : List Char := cs.dropWhile isSpace

def hexValue (c : Char) : Option Nat :=
  if '0' ≤ c && c ≤ '9' then some (c.toNat - 0x30)
  else if 'a' ≤ c && c ≤ 'f' then some (c.toNat - 0x57)
  else if 'A' ≤ c && c ≤ 'F' then some (c.toNat - 0x37)
  else none

def hex4 (a b c d : Char) : Option Nat := do
  some (((← hexValue a) * 16 + (← hexValue b)) * 256 + (← hexValue c) * 16 + (← hexValue d))

def simpleEscape : Char → Option Char
  | '"' => some '"'
  | '\\' => some '\\'
  | '/' => some '/'
  | 'b' => some '\x08'
  | 'f' => some '\x0c'
  | 'n' => some '\n'
  | 'r' => some '\r'
  | 't' => some '\t'
  | _ => none

def isHighSurrogate (n : Nat) : Bool := 0xd800 ≤ n && n < 0xdc00

def isLowSurrogate (n : Nat) : Bool := 0xdc00 ≤ n && n < 0xe000

def pairCode (high low : Nat) : Nat := 0x10000 + (high - 0xd800) * 0x400 + (low - 0xdc00)

/-- The low half that follows a high one, and the text after it. -/
def lowHalf : List Char → Option (Nat × List Char)
  | '\\' :: 'u' :: a :: b :: c :: d :: rest =>
    match hex4 a b c d with
    | some low => if isLowSurrogate low then some (low, rest) else none
    | none => none
  | _ => none

/-- The rest of a string after its opening quote, with the text after its closing one. -/
def readString : Nat → List Char → Option (Option (List Char) × List Char)
  | 0, _ => none
  | _ + 1, [] => none
  | _ + 1, '"' :: rest => some (some [], rest)
  | fuel + 1, '\\' :: 'u' :: a :: b :: c :: d :: rest =>
    match hex4 a b c d with
    | none => none
    | some code =>
      if isHighSurrogate code then
        match lowHalf rest with
        | some (low, rest) =>
          (readString fuel rest).map fun (t, r) =>
            (t.map (Char.ofNat (pairCode code low) :: ·), r)
        | none => (readString fuel rest).map fun (_, r) => (none, r)
      else if isLowSurrogate code then (readString fuel rest).map fun (_, r) => (none, r)
      else (readString fuel rest).map fun (t, r) => (t.map (Char.ofNat code :: ·), r)
  | fuel + 1, '\\' :: c :: rest =>
    match simpleEscape c with
    | some e => (readString fuel rest).map fun (t, r) => (t.map (e :: ·), r)
    | none => none
  | fuel + 1, c :: rest =>
    if c.toNat < 0x20 || c == '\\' then none
    else (readString fuel rest).map fun (t, r) => (t.map (c :: ·), r)

def readDigits (cs : List Char) : List Char × List Char :=
  (cs.takeWhile Char.isDigit, cs.dropWhile Char.isDigit)

/-- The digits before the decimal point: a lone zero, or none in front. -/
def readWhole (cs : List Char) : Option (List Char × List Char) :=
  match readDigits cs with
  | ([], _) => none
  | ('0' :: _ :: _, _) => none
  | found => some found

def readFraction : List Char → Option (Option (List Char) × List Char)
  | '.' :: rest =>
    match readDigits rest with
    | ([], _) => none
    | (found, rest) => some (some found, rest)
  | cs => some (none, cs)

def readSign : List Char → Bool × List Char
  | '+' :: rest => (false, rest)
  | '-' :: rest => (true, rest)
  | cs => (false, cs)

def readExponent : List Char → Option (Option (Bool × List Char) × List Char)
  | c :: rest =>
    if c == 'e' || c == 'E' then
      let (negative, rest) := readSign rest
      match readDigits rest with
      | ([], _) => none
      | (found, rest) => some (some (negative, found), rest)
    else some (none, c :: rest)
  | [] => some (none, [])

def readUnsigned (negative : Bool) (cs : List Char) : Option (NumberLiteral × List Char) := do
  let (w, cs) ← readWhole cs
  let (f, cs) ← readFraction cs
  let (e, cs) ← readExponent cs
  some (⟨negative, w, f, e⟩, cs)

def readLiteral : List Char → Option (NumberLiteral × List Char)
  | '-' :: rest => readUnsigned true rest
  | cs => readUnsigned false cs

mutual
def readValue : Nat → List Char → Option (Doc × List Char)
  | 0, _ => none
  | fuel + 1, cs =>
    match skip cs with
    | 'n' :: 'u' :: 'l' :: 'l' :: rest => some (.null, rest)
    | 't' :: 'r' :: 'u' :: 'e' :: rest => some (.bool true, rest)
    | 'f' :: 'a' :: 'l' :: 's' :: 'e' :: rest => some (.bool false, rest)
    | '"' :: rest => (readString (rest.length + 1) rest).map fun (t, r) => (.string t, r)
    | '[' :: rest =>
      match skip rest with
      | ']' :: rest => some (.array [], rest)
      | rest => (readElements fuel rest).map fun (items, r) => (.array items, r)
    | '\x7b' :: rest =>
      match skip rest with
      | '\x7d' :: rest => some (.object [], rest)
      | rest => (readMembers fuel rest).map fun (fields, r) => (.object fields, r)
    | cs => (readLiteral cs).map fun (n, r) => (.number n.value?, r)

def readElements : Nat → List Char → Option (List Doc × List Char)
  | 0, _ => none
  | fuel + 1, cs =>
    match readValue fuel cs with
    | none => none
    | some (item, rest) =>
      match skip rest with
      | ',' :: rest => (readElements fuel rest).map fun (items, r) => (item :: items, r)
      | ']' :: rest => some ([item], rest)
      | _ => none

def readMembers : Nat → List Char → Option (List (Option (List Char) × Doc) × List Char)
  | 0, _ => none
  | fuel + 1, cs =>
    match skip cs with
    | '"' :: rest =>
      match readString (rest.length + 1) rest with
      | none => none
      | some (key, rest) =>
        match skip rest with
        | ':' :: rest =>
          match readValue fuel rest with
          | none => none
          | some (item, rest) =>
            match skip rest with
            | ',' :: rest =>
              (readMembers fuel rest).map fun (fields, r) => ((key, item) :: fields, r)
            | '\x7d' :: rest => some ([(key, item)], rest)
            | _ => none
        | _ => none
    | _ => none
end

/-- The document at the front of a text, and what is left after the blanks behind it. -/
def readFront (cs : List Char) : Option (Doc × List Char) :=
  (readValue (2 * cs.length + 2) cs).map fun (doc, rest) => (doc, skip rest)

def parseChars (cs : List Char) : Option Doc :=
  match readFront cs with
  | some (doc, []) => some doc
  | _ => none

/-- The document of a whole text. -/
def parse (text : String) : Option Doc := parseChars text.toList

end Doc

/-- The value of a JSON text. -/
def Json.parse (text : String) : Option Json := (Doc.parse text).bind (Doc.toJson? Doc.deepest)

end Rollout
