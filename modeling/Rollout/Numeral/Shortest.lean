import Rollout.Numeral.Binary

/-!
The shortest decimal that reads back as a given number, and its layout: plain
notation while the decimal point stays near the digits, an exponent otherwise.
-/

namespace Rollout.Numeral

/-- `digits · 10^exponent`. -/
structure Decimal where
  digits : Nat
  exponent : Int
  deriving DecidableEq, Repr

namespace Decimal

def atMost (d : Decimal) (num den : Nat) : Bool :=
  if d.exponent < 0 then d.digits * den ≤ num * Nat.pow 10 d.exponent.natAbs
  else d.digits * Nat.pow 10 d.exponent.natAbs * den ≤ num

def below (d : Decimal) (num den : Nat) : Bool :=
  if d.exponent < 0 then d.digits * den < num * Nat.pow 10 d.exponent.natAbs
  else d.digits * Nat.pow 10 d.exponent.natAbs * den < num

end Decimal

/-- The numbers that round to one double, in units of `1 / den`. -/
structure Interval where
  low : Nat
  value : Nat
  high : Nat
  den : Nat
  closed : Bool

namespace Interval

-- Below a power of two the neighbours are half as far apart.
def of (x : Double) : Interval :=
  let up := if x.exponent < 0 then 1 else Nat.pow 2 x.exponent.natAbs
  let down := if x.exponent < 0 then Nat.pow 2 x.exponent.natAbs else 1
  let gap := if x.mantissa = Nat.pow 2 52 && x.exponent != Double.leastExponent then 1 else 2
  { low := (4 * x.mantissa - gap) * up
    value := 4 * x.mantissa * up
    high := (4 * x.mantissa + 2) * up
    den := 4 * down
    closed := x.mantissa % 2 == 0 }

def has (i : Interval) (d : Decimal) : Bool :=
  if i.closed then !d.below i.low i.den && d.atMost i.high i.den
  else !d.atMost i.low i.den && d.below i.high i.den

/-- The two decimals around the value whose last digit stands at `10^exponent`. -/
def neighbours (i : Interval) (exponent : Int) : Decimal × Decimal :=
  let q := if exponent < 0 then i.value * Nat.pow 10 exponent.natAbs / i.den
    else i.value / (i.den * Nat.pow 10 exponent.natAbs)
  (⟨q, exponent⟩, ⟨q + 1, exponent⟩)

-- The value lies closer to `d` than to its successor iff it is below their middle.
def lowerNearer (i : Interval) (d : Decimal) : Bool :=
  let middle : Decimal := ⟨10 * d.digits + 5, d.exponent - 1⟩
  !middle.atMost i.value i.den
    || (!middle.below i.value i.den && d.digits % 2 == 0)

def atGrid (i : Interval) (exponent : Int) : Option Decimal :=
  let (a, b) := i.neighbours exponent
  match i.has a && a.digits != 0, i.has b with
  | true, true => some (if i.lowerNearer a then a else b)
  | true, false => some a
  | false, true => some b
  | false, false => none

end Interval

/-- The exponent of the leading digit of `num / den`. -/
def leadingExponent (num den : Nat) : Int :=
  let guess : Int := (Nat.toDigits 10 num).length - (Nat.toDigits 10 den).length
  if (Decimal.mk 1 guess).atMost num den then guess else guess - 1

def firstGrid (i : Interval) (leading : Int) : List Nat → Decimal
  | [] => ⟨i.value / i.den, 0⟩
  | count :: rest =>
    match i.atGrid (leading - count) with
    | some d => d
    | none => firstGrid i leading rest

def dropZeros : Nat → Decimal → Decimal
  | 0, d => d
  | fuel + 1, d =>
    if d.digits != 0 && d.digits % 10 == 0 then dropZeros fuel ⟨d.digits / 10, d.exponent + 1⟩
    else d

/-- Of the decimals that read back as `x`, the nearest of those with the fewest digits. -/
def shortest (x : Double) : Decimal :=
  let i := Interval.of x
  dropZeros 20 (firstGrid i (leadingExponent i.value i.den) (List.range 18))

/-- Digits and the place of the decimal point counted from their front. -/
def layout (digits : List Char) (point : Int) : List Char :=
  let count : Int := digits.length
  if count ≤ point && point ≤ 16 then
    digits ++ List.replicate (point - count).toNat '0' ++ ['.', '0']
  else if 0 < point && point ≤ 16 then
    digits.take point.toNat ++ '.' :: digits.drop point.toNat
  else if -5 < point && point ≤ 0 then
    ['0', '.'] ++ List.replicate (-point).toNat '0' ++ digits
  else
    let exponent := point - 1
    let mark := (if exponent < 0 then ['e', '-'] else ['e', '+'])
      ++ Nat.toDigits 10 exponent.natAbs
    match digits with
    | [d] => d :: mark
    | d :: rest => d :: '.' :: rest ++ mark
    | [] => []

def Double.text (x : Double) : List Char :=
  let body :=
    if x.isZero then ['0', '.', '0']
    else
      let d := shortest x
      let digits := Nat.toDigits 10 d.digits
      layout digits (d.exponent + digits.length)
  if x.negative then '-' :: body else body

end Rollout.Numeral
