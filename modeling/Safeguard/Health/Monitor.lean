import Safeguard.Config.Basic
import Safeguard.Health.Round

/-!
# Health monitors

A `Monitor` keeps the health checks by name and runs a round of them on demand. A check that is
registered under a name in use takes the place of the old one. The status of the service is
derived from the results of the round, which holds one result for each check that was registered
when it began.
-/

namespace Safeguard

/-- The health checks of a service. -/
structure Monitor where
  settings : HealthSettings
  started : Nat := 0
  checks : NameMap Check := .empty

/-- What a round of health checks leaves behind. -/
structure Examination where
  health : HealthStatus
  monitor : Monitor
  registry : Registry
  clock : Clock
  /-- When the checks that were let through were invoked. -/
  invocations : NameMap (List Nat)
  notices : List Notice

namespace Monitor

/-- Registers a check. -/
def register (m : Monitor) (name : String) (check : Check) : Monitor × List Notice :=
  ({ m with checks := m.checks.insert name check },
    [.log (.checkRegistered name (m.checks.contains name))])

/-- Removes a check; whether there was one. -/
def unregister (m : Monitor) (name : String) : Bool × Monitor :=
  (m.checks.contains name, { m with checks := m.checks.erase name })

/-- The names of the checks, in ascending order. -/
def names (m : Monitor) : List String := m.checks.names

/-- How the checks are retried. -/
def retry (m : Monitor) (draw : Nat → Float) : Retry := .ofPolicy m.settings.retry draw

/-- A round of all checks. -/
def round (m : Monitor) (clock : Clock) (registry : Registry) (draw : Nat → Float) : Round :=
  let run := if m.settings.concurrent then Round.runOverlapping else Round.runInTurn
  run m.settings.breaker (m.retry draw) { clock, registry } m.checks.entries

/-- The result of a round. -/
def report (m : Monitor) (r : Round) : HealthStatus where
  status := overallStatus (r.services.entries.map Prod.snd)
  services := r.services
  timestamp := r.clock.unixMillis
  uptime := r.clock.now - m.started

/-- The monitor after a round: checks go on where they were left. -/
def after (m : Monitor) (r : Round) : Monitor :=
  { m with
    checks := m.checks.map fun name check =>
      check.after ((r.invocations.get? name).getD []).length }

/-- Runs a round of all checks. -/
def examine (m : Monitor) (clock : Clock) (registry : Registry) (draw : Nat → Float) :
    Examination :=
  let r := m.round clock registry draw
  { health := m.report r, monitor := m.after r, registry := r.registry, clock := r.clock
    invocations := r.invocations, notices := r.notices }

end Monitor

end Safeguard
