import Rollout.Yaml.Scalar

/-!
How a text is written as a scalar: plain where that is safe, else between
single quotes, else between double quotes with escapes. Texts of several lines
are written as a block, line by line.
-/

namespace Rollout.Yaml

inductive Style where
  | plain
  | singleQuoted
  | doubleQuoted
  | literal
  deriving DecidableEq, Repr

def isBreak (c : Char) : Bool := ['\n', '\r', '\x85', '\u2028', '\u2029'].contains c

/-- Characters that may stand in a document as they are. -/
def isPrintable (c : Char) : Bool :=
  let n := c.toNat
  n == 0x0a || (0x20 ≤ n && n ≤ 0x7e) || (0xa0 ≤ n && n != 0xfeff && n != 0xfffe && n != 0xffff)

def endsWord : Option Char → Bool
  | none => true
  | some c => c == ' ' || c == '\t' || isBreak c || c == '\x00'

def opensIndicator (c : Char) (next : Option Char) : Bool :=
  "#,[]\x7b\x7d&*!|>'\"%@`".toList.contains c
    || (['?', ':', '-'].contains c && endsWord next)

/-- Some later character would end a plain scalar or begin a comment. -/
def hasIndicator : Char → List Char → Bool
  | _, [] => false
  | before, c :: rest =>
    (c == ':' && endsWord rest.head?) || (c == '#' && endsWord (some before))
      || hasIndicator c rest

def hasIndicators : List Char → Bool
  | [] => false
  | c :: rest =>
    [['-', '-', '-'], ['.', '.', '.']].contains ((c :: rest).take 3)
      || opensIndicator c rest.head? || hasIndicator c rest

def adjacent (first second : Char → Bool) : List Char → Bool
  | a :: b :: rest => (first a && second b) || adjacent first second (b :: rest)
  | _ => false

def isSpace (c : Char) : Bool := c == ' '

def bordered (cs : List Char) : Bool :=
  let outer : Char → Bool := fun c => isSpace c || isBreak c
  (cs.head?.map outer).getD false || (cs.getLast?.map outer).getD false

/-- Only double quotes keep such a text. -/
def isFragile (cs : List Char) : Bool :=
  adjacent isSpace isBreak cs || cs.any fun c => !isPrintable c

def allowsPlain (cs : List Char) : Bool :=
  !(bordered cs || isFragile cs || cs.any isBreak || hasIndicators cs)

def allowsSingle (cs : List Char) : Bool := !(isFragile cs || adjacent isBreak isSpace cs)

def allowsLiteral (cs : List Char) : Bool :=
  !cs.isEmpty && !isFragile cs && cs.getLast? != some ' '

def Style.ofText (s : String) : Style :=
  let cs := s.toList
  let quoted : Style := if allowsSingle cs then .singleQuoted else .doubleQuoted
  if cs.contains '\n' then (if allowsLiteral cs then .literal else .doubleQuoted)
  else if needsQuotes s || !allowsPlain cs then quoted
  else .plain

/-- Longer keys, and keys of several lines, are marked as keys and stand on their own. -/
def isSimpleKey (key : String) : Bool := key.utf8ByteSize ≤ 128 && !key.toList.any isBreak

end Rollout.Yaml
