import Rollout.Time.Instant

/-!
Written forms of an instant in UTC. A fraction takes 3, 6 or 9 digits, the
fewest that lose nothing, and is left out when it is zero.
-/

namespace Rollout.Time

/-- Decimal digits of `n`, at least `width` of them. -/
def padded (width n : Nat) : List Char :=
  let digits := Nat.toDigits 10 n
  List.replicate (width - digits.length) '0' ++ digits

/-- Four digits; years outside 0 to 9999 have a sign. -/
def yearText (year : Int) : List Char :=
  if 0 ≤ year && year ≤ 9999 then padded 4 year.toNat
  else (if year < 0 then '-' else '+') :: padded 4 year.natAbs

def dateText (d : Date) : List Char :=
  yearText d.year ++ '-' :: padded 2 d.month ++ '-' :: padded 2 d.day

namespace Instant

/-- Second of the minute; a leap second is the sixtieth. -/
def clockSecond (t : Instant) : Nat :=
  (t.secondOfDay % 60).toNat + (if t.isLeapSecond then 1 else 0)

def fractionNanos (t : Instant) : Nat :=
  if t.isLeapSecond then t.nanos - nanosPerSecond else t.nanos

def clockText (t : Instant) : List Char :=
  padded 2 (t.secondOfDay / 3600).toNat ++ ':' :: padded 2 (t.secondOfDay / 60 % 60).toNat
    ++ ':' :: padded 2 t.clockSecond

def fractionText (nanos : Nat) : List Char :=
  if nanos = 0 then []
  else if nanos % 1000000 = 0 then '.' :: padded 3 (nanos / 1000000)
  else if nanos % 1000 = 0 then '.' :: padded 6 (nanos / 1000)
  else '.' :: padded 9 nanos

def dateTime (separator : Char) (t : Instant) : List Char :=
  dateText t.date ++ separator :: t.clockText

/-- RFC 3339 with `Z`. -/
def rfc3339 (t : Instant) : String :=
  String.ofList (t.dateTime 'T' ++ fractionText t.fractionNanos ++ ['Z'])

/-- RFC 3339 with the offset spelled out. -/
def rfc3339Offset (t : Instant) : String :=
  String.ofList (t.dateTime 'T' ++ fractionText t.fractionNanos ++ ['+', '0', '0', ':', '0', '0'])

/-- RFC 3339 with `Z` and always six digits of fraction. -/
def rfc3339Micros (t : Instant) : String :=
  String.ofList (t.dateTime 'T' ++ '.' :: padded 6 (t.fractionNanos / 1000) ++ ['Z'])

/-- The form messages use, as in `2020-01-01 00:00:00 UTC`. -/
def plain (t : Instant) : String :=
  String.ofList (t.dateTime ' ' ++ fractionText t.fractionNanos ++ [' ', 'U', 'T', 'C'])

end Instant

end Rollout.Time
