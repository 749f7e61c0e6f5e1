import Safeguard.Config.BreakerPolicy
import Safeguard.Config.RetryPolicy
import Safeguard.NameMap

/-!
# The configuration of a service

`Configuration` gathers the policies of breakers and retries, the settings of health checks, what
single dependencies override, and the settings of logs, metrics and the admin interface. Every
field has a default; health checks have policies of their own.
-/

namespace Safeguard

/-- A health check that is declared by the address it tries to reach. -/
structure CheckTarget where
  name : String
  address : String
  /-- How long to try, in milliseconds. -/
  timeout : UInt64 := 2000
  deriving DecidableEq

/-- How health checks are run, and which ones are declared. -/
structure HealthSettings where
  breaker : BreakerPolicy := .forHealthChecks
  retry : RetryPolicy := .forHealthChecks
  /-- Whether the checks of a run overlap, or follow one another. -/
  concurrent : Bool := true
  checks : List CheckTarget := []

/-- Logs and metrics. -/
structure ObservabilitySettings where
  logLevel : String := "info"
  jsonLogs : Bool := false
  metricsEnabled : Bool := false
  metricsAddress : String := "0.0.0.0:9090"
  deriving DecidableEq

/-- The admin interface. -/
structure AdminSettings where
  enabled : Bool := true
  bindAddress : String := "127.0.0.1:8081"
  /-- The key that admin requests have to present, if any. -/
  apiKey : Option String := none
  deriving DecidableEq

/-- The configuration of a service. -/
structure Configuration where
  breaker : BreakerPolicy := {}
  retries : RetryPolicy := {}
  health : HealthSettings := {}
  /-- What single dependencies change in the policy of their breakers. -/
  dependencies : NameMap BreakerOverride := .empty
  observability : ObservabilitySettings := {}
  admin : AdminSettings := {}

/-- The log filter for a level: the service and its command-line client log at that level, and
requests at the level of information. -/
def logDirectives (level : String) : String :=
  "service_resilience=" ++ level ++ ",resilience_cli=" ++ level ++ ",tower_http=info"

end Safeguard
