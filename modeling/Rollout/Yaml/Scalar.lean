import Rollout.Numeral.Binary
import Rollout.Numeral.Whole

/-!
What a plain scalar stands for. Nothing and the null words are null; true and
false have three spellings each; numbers are decimal, hexadecimal, octal or
binary, or have a fraction or an exponent. Any other scalar is a text, and so
are digits behind a leading zero.
-/

namespace Rollout.Yaml

open Numeral (natural?)

def isNull (s : String) : Bool := ["", "~", "null", "Null", "NULL"].contains s

def boolean? (s : String) : Option Bool :=
  if ["true", "True", "TRUE"].contains s then some true
  else if ["false", "False", "FALSE"].contains s then some false
  else none

def dropSign : List Char → List Char
  | '-' :: rest => rest
  | '+' :: rest => rest
  | cs => cs

def isPadded (cs : List Char) : Bool :=
  match dropSign cs with
  | '0' :: d :: rest => (d :: rest).all Char.isDigit
  | _ => false

def magnitude? : List Char → Option Nat
  | '0' :: 'x' :: rest => natural? 16 rest
  | '0' :: 'o' :: rest => natural? 8 rest
  | '0' :: 'b' :: rest => natural? 2 rest
  | digits => natural? 10 digits

/-- A whole number, however large. -/
def integer? (s : String) : Option Int :=
  let cs := s.toList
  if isPadded cs then none
  else
    match cs with
    | '-' :: rest => (magnitude? rest).map fun n => -(n : Int)
    | '+' :: rest => (magnitude? rest).map Int.ofNat
    | rest => (magnitude? rest).map Int.ofNat

/-- A number between bounds that is written without a minus. -/
def unsigned? (limit : Nat) (s : String) : Option Nat :=
  if s.toList.head? = some '-' then none
  else (integer? s).bind fun n => if n.toNat ≤ limit then some n.toNat else none

/-- Digits with at most one point among them, and how many stand after it. -/
def decimal? (cs : List Char) : Option (Nat × Nat) :=
  let whole := cs.takeWhile Char.isDigit
  match cs.drop whole.length with
  | [] => (natural? 10 whole).map fun n => (n, 0)
  | '.' :: fraction =>
    if fraction.all Char.isDigit then
      (natural? 10 (whole ++ fraction)).map fun n => (n, fraction.length)
    else none
  | _ => none

def exponent? : List Char → Option Int
  | [] => none
  | c :: rest =>
    if c == 'e' || c == 'E' then
      match rest with
      | '-' :: digits => (natural? 10 digits).map fun n => -(n : Int)
      | '+' :: digits => (natural? 10 digits).map Int.ofNat
      | digits => (natural? 10 digits).map Int.ofNat
    else none

/-- `n · 10^e` is not beyond the floating-point numbers. -/
def isFinite (n : Nat) (e : Int) : Bool :=
  if n = 0 || e < 0 then
    (Numeral.Double.ofRatio false n (Nat.pow 10 (if n = 0 then 0 else min e.natAbs 20000))).isSome
  else if e > 400 then false
  else (Numeral.Double.ofNat (n * Nat.pow 10 e.toNat)).isSome

def isDecimal (cs : List Char) : Bool :=
  let mantissa := cs.takeWhile fun c => c.isDigit || c == '.'
  let tail := cs.drop mantissa.length
  match decimal? mantissa, (if tail.isEmpty then some 0 else exponent? tail) with
  | some (n, places), some e => isFinite n (e - places)
  | _, _ => false

def isFloat (s : String) : Bool :=
  [".inf", ".Inf", ".INF", "+.inf", "+.Inf", "+.INF", "-.inf", "-.Inf", "-.INF", ".nan", ".NaN",
    ".NAN"].contains s
    || (!isPadded s.toList && isDecimal (dropSign s.toList))

/-- Integers of up to 128 bits; larger ones are floating-point numbers or texts. -/
def isInteger (s : String) : Bool :=
  match integer? s with
  | some n => Numeral.leastSigned 128 ≤ n && n ≤ Numeral.greatest 128
  | none => false

/-- Written plain, the text would be read as something else. -/
def needsQuotes (s : String) : Bool :=
  isNull s || (boolean? s).isSome || isInteger s || isFloat s || isPadded s.toList

end Rollout.Yaml
