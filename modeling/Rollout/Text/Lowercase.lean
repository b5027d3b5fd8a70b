import Rollout.Text.CharClass

/-!
Lower case of a text. A capital sigma is the only letter whose lower case
depends on its neighbours: it is final when a cased letter stands before it and
none after it, case-ignorable characters not counted.
-/

namespace Rollout.Text

def shiftOf (code : Nat) : Option Shift := lowerShifts.find? (·.has code)

def lowerChar (c : Char) : List Char :=
  if isAscii c then [c.toLower]
  else if c = 'İ' then ['i', '\u0307']
  else match shiftOf c.toNat with
    | some shift => [Char.ofNat (c.toNat + shift.offset).toNat]
    | none => [c]

def casedAhead (cs : List Char) : Bool :=
  ((cs.dropWhile isCaseIgnorable).head?.map isCased).getD false

def lowerSigma (before after : List Char) : Char :=
  if casedAhead before && !casedAhead after then 'ς' else 'σ'

/-- `before` is the text already read, last character first. -/
def lowerFrom : List Char → List Char → List Char
  | _, [] => []
  | before, c :: rest =>
    (if c = 'Σ' then [lowerSigma before rest] else lowerChar c) ++ lowerFrom (c :: before) rest

def lower (s : String) : String := String.ofList (lowerFrom [] s.toList)

end Rollout.Text
