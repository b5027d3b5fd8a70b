import Rollout.Time.Calendar

/-!
Points in time, counted in nanoseconds. A leap second is the second before it
with a fraction of one or more.
-/

namespace Rollout.Time

structure Instant where
  /-- Seconds since 1970-01-01T00:00:00Z. -/
  seconds : Int
  nanos : Nat
  deriving DecidableEq, Repr, Inhabited

namespace Instant

def epoch : Instant := ⟨0, 0⟩

def nanosPerSecond : Nat := 1000000000

def secondsPerDay : Int := 86400

def date (t : Instant) : Date := Date.ofDays (t.seconds / secondsPerDay)

def secondOfDay (t : Instant) : Int := t.seconds % secondsPerDay

/-- The date is one a calendar date can have. -/
def representable (t : Instant) : Bool :=
  let days := t.seconds / secondsPerDay
  Date.toDays ⟨Date.firstYear, 1, 1⟩ ≤ days && days ≤ Date.toDays ⟨Date.lastYear, 12, 31⟩

def isLeapSecond (t : Instant) : Bool := nanosPerSecond ≤ t.nanos

/-- Leap seconds that lie between the two times of day count as well. -/
def leapBetween (a b : Instant) : Int :=
  if a.secondOfDay > b.secondOfDay then (if b.isLeapSecond then 1 else 0)
  else if a.secondOfDay < b.secondOfDay then (if a.isLeapSecond then -1 else 0)
  else 0

def nanosSince (a b : Instant) : Int :=
  (a.seconds - b.seconds + leapBetween a b) * nanosPerSecond + (a.nanos - b.nanos)

/-- The whole seconds from `b` to `a`, rounded towards zero. -/
def secondsSince (a b : Instant) : Int := (nanosSince a b).tdiv nanosPerSecond

def addSeconds (t : Instant) (seconds : Int) : Instant := ⟨t.seconds + seconds, t.nanos⟩

def addMillis (t : Instant) (millis : Nat) : Instant :=
  let nanos := t.nanos + millis * 1000000
  ⟨t.seconds + nanos / nanosPerSecond, nanos % nanosPerSecond⟩

def micros (t : Instant) : Int := t.seconds * 1000000 + t.nanos / 1000

def ofMicros (micros : Int) : Instant := ⟨micros / 1000000, (micros % 1000000).toNat * 1000⟩

end Instant

end Rollout.Time
