import Rollout.Json.Basic
import Rollout.Numeral.Whole

/-!
Number literals of JSON and their values. A literal without fraction and
exponent that fits 64 bits is a whole number. Any other is read as a
floating-point number from its leading digits, as many as fit 64 bits, and a
power of ten; each of the two is rounded before they are multiplied.
-/

namespace Rollout

/-- A literal split at the decimal point and the exponent mark. -/
structure NumberLiteral where
  negative : Bool
  whole : List Char
  fraction : Option (List Char)
  /-- Sign and digits of the exponent. -/
  exponent : Option (Bool × List Char)
  deriving DecidableEq, Repr

namespace NumberLiteral

def digit (c : Char) : Nat := c.toNat - 0x30

/-- The significand of a digit sequence, and how many digits no longer fitted. -/
def takeWhole : List Char → Nat → Nat × Nat
  | [], significand => (significand, 0)
  | c :: rest, significand =>
    let next := significand * 10 + digit c
    if next ≤ Numeral.greatest 64 then takeWhole rest next else (significand, rest.length + 1)

/-- Fraction digits go on filling the significand; the first that does not fit ends it. -/
def takeFraction : List Char → Nat → Nat → Nat × Nat
  | [], significand, taken => (significand, taken)
  | c :: rest, significand, taken =>
    let next := significand * 10 + digit c
    if next ≤ Numeral.greatest 64 then takeFraction rest next (taken + 1) else (significand, taken)

def natOf (digits : List Char) : Nat := digits.foldl (fun n c => n * 10 + digit c) 0

def greatestExponent : Nat := Numeral.greatest 31

def powerOfTen (n : Nat) : Option Numeral.Double := Numeral.Double.ofNat (Nat.pow 10 n)

def largestPower : Nat := 308

/-- `x / 10^(308 · steps + rest)`, one step after the other and none once zero is reached. -/
def lowered (x : Numeral.Double) : Nat → Nat → Option Numeral.Double
  | 0, rest => (powerOfTen rest).bind x.div
  | steps + 1, rest =>
    if x.isZero then some x
    else ((powerOfTen largestPower).bind x.div).bind fun y => lowered y steps rest

def raised (x : Numeral.Double) (n : Nat) : Option Numeral.Double :=
  if n ≤ largestPower then (powerOfTen n).bind x.mul
  else if x.isZero then some x
  else none

def scaledBy (significand : Nat) (exponent : Int) : Option Numeral.Double :=
  (Numeral.Double.ofNat significand).bind fun x =>
    if exponent < 0 then
      let n := exponent.natAbs
      let steps := (n - 1) / largestPower
      lowered x steps (n - steps * largestPower)
    else raised x exponent.natAbs

def signed (negative : Bool) (x : Numeral.Double) : Numeral.Double :=
  { x with negative := negative }

def clampExponent (e : Int) : Int :=
  max (Numeral.leastSigned 32) (min e (Numeral.greatestSigned 32))

def float? (l : NumberLiteral) : Option Numeral.Double :=
  let (significand, dropped) := takeWhole l.whole 0
  let (significand, taken) := takeFraction (l.fraction.getD []) significand 0
  let start : Int := dropped - taken
  match l.exponent with
  | none => (scaledBy significand start).map (signed l.negative)
  | some (negative, digits) =>
    let e := natOf digits
    if e > greatestExponent then
      if significand != 0 && !negative then none
      else some (Numeral.Double.zero l.negative)
    else
      let shift := clampExponent (if negative then start - e else start + e)
      (scaledBy significand shift).map (signed l.negative)

/-- The value, or `none` where it is beyond the floating-point numbers. -/
def value? (l : NumberLiteral) : Option JsonNumber :=
  match l.fraction, l.exponent with
  | none, none =>
    let n := natOf l.whole
    if l.negative then
      if 0 < n && Numeral.leastSigned 64 ≤ -n then some (.int (-n)) else l.float?.map .float
    else if n ≤ Numeral.greatest 64 then some (.int n) else l.float?.map .float
  | _, _ => l.float?.map .float

end NumberLiteral

end Rollout
