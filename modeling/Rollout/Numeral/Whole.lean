/-!
Whole numbers: how they are read from the digits of a base, and the bounds of
those that are kept in a fixed number of bits.
-/

namespace Rollout.Numeral

def digitValue? (c : Char) : Option Nat :=
  if c.isDigit then some (c.toNat - 0x30)
  else if 'a' ≤ c && c ≤ 'f' then some (c.toNat - 0x61 + 10)
  else if 'A' ≤ c && c ≤ 'F' then some (c.toNat - 0x41 + 10)
  else none

def readDigit (base : Nat) (value : Nat) (c : Char) : Option Nat :=
  (digitValue? c).bind fun d => if d < base then some (value * base + d) else none

/-- The number written by digits of a base; there has to be one. -/
def natural? (base : Nat) : List Char → Option Nat
  | [] => none
  | digits => digits.foldlM (readDigit base) 0

/-- The greatest number of so many bits. -/
def greatest (bits : Nat) : Nat := Nat.pow 2 bits - 1

/-- The greatest number of so many bits of which one is the sign. -/
def greatestSigned (bits : Nat) : Int := Nat.pow 2 (bits - 1) - 1

def leastSigned (bits : Nat) : Int := -Nat.pow 2 (bits - 1)

end Rollout.Numeral
