import Rollout.Yaml.Style

/-!
Quoted scalars. A line break inside one, with the blanks around it, stands for
a blank, and further breaks for themselves.
-/

namespace Rollout.Yaml

open Numeral (natural?)

def isWhite (c : Char) : Bool := c == ' ' || c == '\t'

/-- The text for line breaks between two pieces of a scalar. -/
def folded (breaks : Nat) : List Char :=
  if breaks ≤ 1 then [' '] else List.replicate (breaks - 1) '\n'

def countBreaks (cs : List Char) : Nat := cs.countP (· == '\n')

def trimEnd (reversed : List Char) : List Char := reversed.dropWhile isWhite

/-- Between single quotes, two quotes stand for one. What was read is reversed. -/
def readSingle : Nat → List Char → List Char → Option (List Char × List Char)
  | 0, _, _ => none
  | fuel + 1, cs, read =>
    match cs with
    | [] => none
    | '\'' :: '\'' :: rest => readSingle fuel rest ('\'' :: read)
    | '\'' :: rest => some (read.reverse, rest)
    | '\n' :: rest =>
      let gap := rest.takeWhile fun c => isWhite c || c == '\n'
      readSingle fuel (rest.drop gap.length)
        ((folded (countBreaks gap + 1)).reverse ++ trimEnd read)
    | c :: rest => readSingle fuel rest (c :: read)

def escapes : List (Char × Char) :=
  [('0', '\x00'), ('a', '\x07'), ('b', '\x08'), ('t', '\t'), ('\t', '\t'), ('n', '\n'),
    ('v', '\x0b'), ('f', '\x0c'), ('r', '\r'), ('e', '\x1b'), (' ', ' '), ('"', '"'), ('/', '/'),
    ('\\', '\\'), ('N', '\x85'), ('_', '\u00a0'), ('L', '\u2028'), ('P', '\u2029')]

/-- The character whose code is written with so many hexadecimal digits. -/
def readCode (count : Nat) (cs : List Char) : Option (Char × List Char) := do
  let digits := cs.take count
  if digits.length != count then none
  let n ← natural? 16 digits
  if n.isValidChar then some (Char.ofNat n, cs.drop count) else none

def readEscape : List Char → Option (Char × List Char)
  | 'x' :: rest => readCode 2 rest
  | 'u' :: rest => readCode 4 rest
  | 'U' :: rest => readCode 8 rest
  | c :: rest => (escapes.lookup c).map fun value => (value, rest)
  | [] => none

def readDouble : Nat → List Char → List Char → Option (List Char × List Char)
  | 0, _, _ => none
  | fuel + 1, cs, read =>
    match cs with
    | [] => none
    | '"' :: rest => some (read.reverse, rest)
    | '\\' :: '\n' :: rest => readDouble fuel (rest.dropWhile isWhite) read
    | '\\' :: rest => (readEscape rest).bind fun (c, rest) => readDouble fuel rest (c :: read)
    | '\n' :: rest =>
      let gap := rest.takeWhile fun c => isWhite c || c == '\n'
      readDouble fuel (rest.drop gap.length)
        ((folded (countBreaks gap + 1)).reverse ++ trimEnd read)
    | c :: rest => readDouble fuel rest (c :: read)

/-- The text of a quoted scalar and what follows it. -/
def readQuoted : List Char → Option (List Char × List Char)
  | '\'' :: rest => readSingle (rest.length + 1) rest []
  | '"' :: rest => readDouble (rest.length + 1) rest []
  | _ => none

end Rollout.Yaml
