import Safeguard.Health.Monitor

/-!
# Startup

A service starts with the registry and the health monitor that its configuration describes. Every
declared target gets a health check that tries to reach it. Two targets of one name get one check,
that of the later one.
-/

namespace Safeguard

/-- What a service is made of. -/
structure Components where
  registry : Registry
  monitor : Monitor

namespace Components

/-- Registers the check of a declared target. -/
def addTarget (network : Network) (monitor : Monitor) (target : CheckTarget) :
    Monitor × List Notice :=
  let check := Check.reach network target.address (ofMillis target.timeout)
  let (monitor, notices) := monitor.register target.name check
  (monitor, notices ++ [.log (.targetRegistered target.name target.address)])

/-- Registers the checks of declared targets, in order. -/
def addTargets (network : Network) (monitor : Monitor) :
    List CheckTarget → Monitor × List Notice
  | [] => (monitor, [])
  | target :: rest =>
    let (monitor, notices) := addTarget network monitor target
    let (monitor, further) := addTargets network monitor rest
    (monitor, notices ++ further)

/-- The registry that a configuration describes. -/
def registryOf (c : Configuration) : Registry :=
  { defaults := c.breaker, overrides := c.dependencies }

/-- Puts a service together. -/
def build (network : Network) (clock : Clock) (c : Configuration) :
    Components × List Notice :=
  let (monitor, notices) :=
    addTargets network { settings := c.health, started := clock.now } c.health.checks
  ({ registry := registryOf c, monitor }, notices)

end Components

end Safeguard
