import Safeguard.Config.RetryPolicy
import Safeguard.Numeric.Double

/-!
# Waits between attempts

The wait after an attempt grows by a constant factor from attempt to attempt up to a bound, and
may be shifted at random by up to a quarter of itself. The shift comes after the bound.
-/

namespace Safeguard

/-- The largest shift of a wait, as a share of it. -/
def jitterFactor : Float := 0.25

/-- The exponent of the growth after an attempt is at most this. -/
def largestExponent : Nat := 2147483647

namespace RetryPolicy

/-- The wait after an attempt before any shift: `baseDelay * multiplier ^ (attempt - 1)`, at most
`maxDelay`. -/
def exponentialDelay (p : RetryPolicy) (attempt : Nat) : Nat :=
  if attempt = 0 then 0
  else
    let base := Double.ofDuration p.baseDelay * 1000.0
    let bound := Double.ofDuration p.maxDelay * 1000.0
    let delay := base * Double.power p.multiplier (min (attempt - 1) largestExponent)
    let capped := if delay.isFinite then Double.lesser delay bound else bound
    (Double.toDuration? (Double.atLeastZero capped / 1000.0)).getD p.maxDelay

end RetryPolicy

/-- A wait shifted by a share `unit` of the largest shift; `unit` is brought into the range from
-1 to 1. -/
def applyJitter (delay : Nat) (unit : Float) : Nat :=
  let millis := Double.ofDuration delay * 1000.0
  let offset := millis * jitterFactor * Double.toUnit unit
  (Double.toDuration? (Double.atLeastZero (millis + offset) / 1000.0)).getD longestDuration

namespace RetryPolicy

/-- The wait after an attempt, shifted by the drawn share if the policy says so. -/
def backoff (p : RetryPolicy) (attempt : Nat) (draw : Float) : Nat :=
  let delay := p.exponentialDelay attempt
  if p.jitter then applyJitter delay draw else delay

/-- The shortest and the longest wait after an attempt. -/
def backoffBounds (p : RetryPolicy) (attempt : Nat) : Nat × Nat :=
  let delay := p.exponentialDelay attempt
  (applyJitter delay (-1.0), applyJitter delay 1.0)

/-- Whether the wait for a draw lies between the shortest and the longest one. -/
def backoffWithin (p : RetryPolicy) (attempt : Nat) (draw : Float) : Bool :=
  let (low, high) := p.backoffBounds attempt
  let delay := p.backoff attempt draw
  low ≤ delay && delay ≤ high

end RetryPolicy

end Safeguard
