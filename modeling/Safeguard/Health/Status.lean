import Safeguard.Breaker.Status
import Safeguard.NameMap

/-!
# Reports on health

`ServiceHealth` is the result of one health check and `HealthStatus` that of a whole run, with
their written forms. `overallStatus` derives the status of the service from those of its checks:
it is unhealthy if more than half of them are down, and degraded if any of them is not up.
-/

namespace Safeguard

open Document

/-! ## Statuses -/

/-- The status of a single dependency. -/
inductive ServiceStatus
  | up
  | degraded
  | down
  deriving DecidableEq

/-- The status of the whole service. -/
inductive OverallStatus
  | healthy
  | degraded
  | unhealthy
  deriving DecidableEq

namespace ServiceStatus

/-- The name of a status. -/
def name : ServiceStatus → String
  | up => "up"
  | degraded => "degraded"
  | down => "down"

/-- The status of a name. -/
def ofName? : String → Option ServiceStatus
  | "up" => some up
  | "degraded" => some degraded
  | "down" => some down
  | _ => none

/-- The value of a status on a gauge. -/
def gauge : ServiceStatus → Float
  | up => 1.0
  | degraded => 0.5
  | down => 0.0

/-- Reads a status. -/
def decode (d : Document) : Option ServiceStatus := d.asName?.bind ofName?

end ServiceStatus

namespace OverallStatus

/-- The name of a status. -/
def name : OverallStatus → String
  | healthy => "healthy"
  | degraded => "degraded"
  | unhealthy => "unhealthy"

/-- The status of a name. -/
def ofName? : String → Option OverallStatus
  | "healthy" => some healthy
  | "degraded" => some degraded
  | "unhealthy" => some unhealthy
  | _ => none

/-- The value of a status on a gauge. -/
def gauge : OverallStatus → Float
  | healthy => 1.0
  | degraded => 0.5
  | unhealthy => 0.0

/-- Reads a status. -/
def decode (d : Document) : Option OverallStatus := d.asName?.bind ofName?

end OverallStatus

/-! ## One check -/

/-- The result of one health check. -/
structure ServiceHealth where
  status : ServiceStatus
  /-- How long the check took, if it succeeded. -/
  responseTime : Option Nat := none
  error : Option String := none
  circuitState : Option CircuitState := none
  /-- When the result was obtained, in milliseconds since the epoch. -/
  lastCheck : UInt64
  deriving DecidableEq

namespace ServiceHealth

/-- A service that works. -/
def up (lastCheck : UInt64) : ServiceHealth := { status := .up, lastCheck }

/-- A service that works badly. -/
def degraded (reason : String) (lastCheck : UInt64) : ServiceHealth :=
  { status := .degraded, error := some reason, lastCheck }

/-- A service that does not work. -/
def down (error : String) (lastCheck : UInt64) : ServiceHealth :=
  { status := .down, error := some error, lastCheck }

/-- The fields of a result, in order. -/
def fieldNames : List String :=
  ["status", "responseTime", "error", "circuitBreakerState", "lastCheck"]

/-- Reads a result. -/
def decode (surplus : Surplus) (d : Document) : Option ServiceHealth := do
  let r ← d.record? surplus fieldNames
  let status ← (r "status").required ServiceStatus.decode
  let responseTime ← (r "responseTime").optional asMillis?
  let error ← (r "error").optional asText?
  let circuitState ← (r "circuitBreakerState").optional CircuitState.decode
  let lastCheck ← (r "lastCheck").required asWord64?
  some { status, responseTime, error, circuitState, lastCheck }

/-- A field that is left out if there is nothing to write. -/
def optionalField {α : Type} (name : String) (encode : α → Document) :
    Option α → List (String × Document)
  | some a => [(name, encode a)]
  | none => []

/-- Writes a result. -/
def encode (h : ServiceHealth) : Document :=
  .table <|
    [("status", .text h.status.name)] ++ optionalField "responseTime" millis h.responseTime ++
      optionalField "error" .text h.error ++
      optionalField "circuitBreakerState" CircuitState.encode h.circuitState ++
      [("lastCheck", word64 h.lastCheck)]

end ServiceHealth

/-! ## All checks -/

/-- The status of a service from the results of its checks. -/
def overallStatus (services : List ServiceHealth) : OverallStatus :=
  let down := services.countP fun h => h.status == .down
  let degraded := services.countP fun h => h.status == .degraded
  if services.length < down * 2 then .unhealthy
  else if 0 < down ∨ 0 < degraded then .degraded
  else .healthy

/-- The result of a run of all checks. -/
structure HealthStatus where
  status : OverallStatus
  services : NameMap ServiceHealth
  /-- When the run ended, in milliseconds since the epoch. -/
  timestamp : UInt64
  /-- How long the service has been running. -/
  uptime : Nat

namespace HealthStatus

/-- Whether the service as a whole does not work. -/
def isUnhealthy (h : HealthStatus) : Bool := h.status == .unhealthy

/-- The fields of a result, in order. -/
def fieldNames : List String := ["status", "services", "timestamp", "uptime"]

/-- Reads the results of checks by their names. -/
def decodeServices (surplus : Surplus) (d : Document) : Option (NameMap ServiceHealth) :=
  (asFields? (ServiceHealth.decode surplus) d).map NameMap.ofList

/-- Reads a result. -/
def decode (surplus : Surplus) (d : Document) : Option HealthStatus := do
  let r ← d.record? surplus fieldNames
  let status ← (r "status").required OverallStatus.decode
  let services ← (r "services").required (decodeServices surplus)
  let timestamp ← (r "timestamp").required asWord64?
  let uptime ← (r "uptime").required asMillis?
  some { status, services, timestamp, uptime }

/-- Writes a result. -/
def encode (h : HealthStatus) : Document :=
  .table
    [("status", .text h.status.name),
      ("services", .table (h.services.entries.map fun (name, s) => (name, s.encode))),
      ("timestamp", word64 h.timestamp), ("uptime", millis h.uptime)]

end HealthStatus

end Safeguard
