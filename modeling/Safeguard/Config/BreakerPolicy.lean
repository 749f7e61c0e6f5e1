import Safeguard.Time.Basic

/-!
# Policies of circuit breakers

A `BreakerPolicy` says when a breaker opens and how long it stays open; it is fixed when the
breaker is created. A `BreakerOverride` sets some of its fields and leaves the others as they
are.
-/

namespace Safeguard

/-- When a breaker opens, and for how long. -/
structure BreakerPolicy where
  /-- Failures without a success between them that open the breaker. -/
  failureThreshold : UInt32 := 5
  /-- How long the breaker stays open before a trial call is let through. -/
  recoveryTimeout : Nat := 30000000000
  /-- The window of observation reported to dashboards. -/
  monitoringPeriod : Nat := 60000000000
  /-- The share of failures that the dependency is expected to tolerate. -/
  expectedErrorRate : Float := 0.1
  deriving BEq

/-- Settings that replace those of a policy; what is not set stays as it is. Times are in
milliseconds. -/
structure BreakerOverride where
  failureThreshold : Option UInt32 := none
  recoveryTimeout : Option UInt64 := none
  monitoringPeriod : Option UInt64 := none
  expectedErrorRate : Option Float := none
  deriving BEq

namespace BreakerPolicy

/-- The policy of the breakers that guard health checks. -/
def forHealthChecks : BreakerPolicy where
  failureThreshold := 3
  recoveryTimeout := 10000000000
  monitoringPeriod := 30000000000
  expectedErrorRate := 0.2

/-- The policy with the settings of an override. -/
def overriddenBy (p : BreakerPolicy) (o : BreakerOverride) : BreakerPolicy where
  failureThreshold := o.failureThreshold.getD p.failureThreshold
  recoveryTimeout := (o.recoveryTimeout.map ofMillis).getD p.recoveryTimeout
  monitoringPeriod := (o.monitoringPeriod.map ofMillis).getD p.monitoringPeriod
  expectedErrorRate := o.expectedErrorRate.getD p.expectedErrorRate

@[simp] theorem overriddenBy_empty (p : BreakerPolicy) : p.overriddenBy {} = p := rfl

end BreakerPolicy

namespace BreakerOverride

/-- Whether nothing is set. -/
def isEmpty (o : BreakerOverride) : Bool :=
  o.failureThreshold.isNone && o.recoveryTimeout.isNone && o.monitoringPeriod.isNone &&
    o.expectedErrorRate.isNone

end BreakerOverride

end Safeguard
