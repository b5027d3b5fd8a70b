import Rollout.Json.Basic
import Rollout.Time.Instant

/-!
Times given as a number of seconds since 1970, whole or with a fraction. The
number counts with the precision it has as a floating-point number; what lies
below the nanosecond is cut.
-/

namespace Rollout.Time

open Numeral (Double)

/-- The whole seconds below a number, and the part of a second above them. -/
def splitSeconds (x : Double) : Int × Nat × Nat :=
  let (n, d) := x.ratio
  if x.negative then (-(((n + d - 1) / d : Nat) : Int), (d - n % d) % d, d)
  else ((n / d : Nat), n % d, d)

def nanosOf (num den : Nat) : Nat :=
  let scaled := do
    let fraction ← Double.ofRatio false num den
    let (n, d) := fraction.ratio
    Double.ratio <$> Double.ofRatio false (n * Instant.nanosPerSecond) d
  (scaled.map fun (n, d) => n / d).getD 0

def Instant.ofSeconds (x : Double) : Instant :=
  let (seconds, num, den) := splitSeconds x
  let nanos := nanosOf num den
  ⟨seconds + nanos / nanosPerSecond, nanos % nanosPerSecond⟩

/-- `none` for what is no date of the calendar. -/
def Instant.ofNumber? (n : JsonNumber) : Option Instant := do
  let x ← match n with
    | .int value => Double.ofRatio (decide (value < 0)) value.natAbs 1
    | .float x => some x
  let instant := Instant.ofSeconds x
  if instant.representable then some instant else none

end Rollout.Time
