import Rollout.Text.CharClass
import Rollout.Time.Instant

/-!
Reading RFC 3339 times in a relaxed form: blanks between the parts, one-digit
months, a blank for the `T`, signed years of any length, offsets without colon,
`UTC` for an offset, and a second of 60.
-/

namespace Rollout.Time

open Rollout.Text (trimLeft isBlank)

def digitsValue (cs : List Char) : Nat := cs.foldl (fun n c => n * 10 + (c.toNat - 0x30)) 0

/-- The number written by up to `most` digits, of which one is needed. -/
def readNumber (most : Nat) (cs : List Char) : Option (Nat × List Char) :=
  let found := (cs.take most).takeWhile Char.isDigit
  if found.isEmpty then none else some (digitsValue found, cs.drop found.length)

/-- Any number of digits. -/
def readLong (cs : List Char) : Option (Nat × List Char) := readNumber cs.length cs

def readYear (cs : List Char) : Option (Int × List Char) :=
  match trimLeft cs with
  | '-' :: rest => (readLong rest).map fun (n, r) => (-(n : Int), r)
  | '+' :: rest => (readLong rest).map fun (n, r) => ((n : Int), r)
  | rest => (readNumber 4 rest).map fun (n, r) => ((n : Int), r)

def readPair (cs : List Char) : Option (Nat × List Char) := readNumber 2 (trimLeft cs)

def expect (c : Char) (cs : List Char) : Option (List Char) :=
  match trimLeft cs with
  | first :: rest => if first = c then some rest else none
  | [] => none

/-- Nanoseconds after a decimal point; digits after the ninth do not count. -/
def readFraction : List Char → Option (Nat × List Char)
  | '.' :: rest => do
    let (n, after) ← readNumber 9 rest
    let count := rest.length - after.length
    some (n * Nat.pow 10 (9 - count), after.dropWhile Char.isDigit)
  | cs => some (0, cs)

def readTwoDigits : List Char → Option (Nat × List Char)
  | a :: b :: rest =>
    if a.isDigit && b.isDigit then some (digitsValue [a, b], rest) else none
  | _ => none

/-- Seconds east of UTC. -/
def readOffset (cs : List Char) : Option (Int × List Char) :=
  match cs with
  | c :: rest =>
    if c == 'Z' || c == 'z' then some (0, rest)
    else if c == '+' || c == '-' || c == '−' then do
      let (hours, rest) ← readTwoDigits rest
      let rest := rest.dropWhile fun c => c == ':' || isBlank c
      let (minutes, rest) ← readTwoDigits rest
      if minutes < 60 then
        let seconds : Int := hours * 3600 + minutes * 60
        some (if c == '+' then seconds else -seconds, rest)
      else none
    else none
  | [] => none

def readZone (cs : List Char) : Option (Int × List Char) :=
  match cs with
  | a :: b :: c :: rest =>
    if [a, b, c].map Char.toUpper = ['U', 'T', 'C'] then some (0, rest) else readOffset cs
  | _ => readOffset cs

def isSeparator (c : Char) : Bool := c == 't' || c == 'T' || c == ' '

namespace Instant

/-- The instant of a local date and time, if both exist. -/
def ofLocal (date : Date) (hour minute second nanos : Nat) (offset : Int) : Option Instant :=
  if date.valid && hour < 24 && minute < 60 && second ≤ 60 && offset.natAbs < 86400 then
    let leap := second = 60
    let clock : Int := hour * 3600 + minute * 60 + (if leap then 59 else second)
    let instant : Instant :=
      ⟨date.toDays * secondsPerDay + clock - offset,
        if leap then nanos + nanosPerSecond else nanos⟩
    if instant.representable then some instant else none
  else none

def readChars (cs : List Char) : Option Instant := do
  let (year, cs) ← readYear cs
  let cs ← expect '-' cs
  let (month, cs) ← readPair cs
  let cs ← expect '-' cs
  let (day, cs) ← readPair cs
  let separator :: cs := cs | none
  if !isSeparator separator then none
  let (hour, cs) ← readPair cs
  let cs ← expect ':' cs
  let (minute, cs) ← readPair cs
  let cs ← expect ':' cs
  let (second, cs) ← readPair cs
  let (nanos, cs) ← readFraction cs
  let (offset, cs) ← readZone (trimLeft cs)
  if trimLeft cs = [] then ofLocal ⟨year, month, day⟩ hour minute second nanos offset else none

def parse (text : String) : Option Instant := readChars text.toList

end Instant

end Rollout.Time
