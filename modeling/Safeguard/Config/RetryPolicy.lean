import Safeguard.Time.Basic

/-!
# Policies of retries

A `RetryPolicy` says how often an operation is tried, how long to wait between attempts and which
errors are worth another attempt. A `RetryOverride` sets some of its fields and leaves the others
as they are.
-/

namespace Safeguard

/-- Parts of error messages that mark an error as passing. -/
def defaultMarkers : List String :=
  ["ECONNREFUSED", "ETIMEDOUT", "ENOTFOUND", "Service Unavailable", "Internal Server Error",
    "connection refused", "timed out"]

/-- How often and how fast an operation is tried again. -/
structure RetryPolicy where
  /-- Attempts in all, the first one included. -/
  maxAttempts : UInt32 := 3
  /-- The wait before the second attempt. -/
  baseDelay : Nat := 1000000000
  /-- The upper bound of every wait. -/
  maxDelay : Nat := 30000000000
  /-- By how much each wait is longer than the one before. -/
  multiplier : Float := 2.0
  /-- Whether waits are shifted at random. -/
  jitter : Bool := true
  /-- Parts of the messages of errors that are worth another attempt. -/
  markers : List String := defaultMarkers
  /-- Retries end when the next wait would overrun this time. -/
  maxElapsed : Option Nat := none
  deriving BEq

/-- Settings that replace those of a policy; what is not set stays as it is. Times are in
milliseconds. -/
structure RetryOverride where
  maxAttempts : Option UInt32 := none
  baseDelay : Option UInt64 := none
  maxDelay : Option UInt64 := none
  multiplier : Option Float := none
  jitter : Option Bool := none
  markers : Option (List String) := none
  maxElapsed : Option UInt64 := none
  deriving BEq

namespace RetryPolicy

/-- The policy of health checks. -/
def forHealthChecks : RetryPolicy where
  maxAttempts := 2
  baseDelay := 500000000
  maxDelay := 2000000000

/-- A single attempt. -/
def noRetry : RetryPolicy where
  maxAttempts := 1

/-- The policy with the settings of an override. -/
def overriddenBy (p : RetryPolicy) (o : RetryOverride) : RetryPolicy where
  maxAttempts := o.maxAttempts.getD p.maxAttempts
  baseDelay := (o.baseDelay.map ofMillis).getD p.baseDelay
  maxDelay := (o.maxDelay.map ofMillis).getD p.maxDelay
  multiplier := o.multiplier.getD p.multiplier
  jitter := o.jitter.getD p.jitter
  markers := o.markers.getD p.markers
  maxElapsed := (o.maxElapsed.map ofMillis).or p.maxElapsed

/-- How often an operation is tried at most: once even if the policy says never. -/
def attempts (p : RetryPolicy) : Nat := max p.maxAttempts.toNat 1

@[simp] theorem overriddenBy_empty (p : RetryPolicy) : p.overriddenBy {} = p := by
  simp [overriddenBy]

end RetryPolicy

end Safeguard
