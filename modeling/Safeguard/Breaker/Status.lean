import Safeguard.Breaker.State
import Safeguard.Document.Record

/-!
# Reports on breakers

`BreakerStatus` is what a breaker reports about itself at one moment, with its written form.
Times are milliseconds since the Unix epoch.
-/

namespace Safeguard

open Document

/-- What a breaker reports about itself. -/
structure BreakerStatus where
  serviceName : String
  state : CircuitState
  failureCount : UInt32
  successCount : UInt64
  lastFailureTime : Option UInt64
  /-- When a trial call is let through; only set while the circuit is open. -/
  nextAttemptTime : Option UInt64
  isAvailable : Bool
  deriving DecidableEq

/-- Reads the state of a circuit. -/
def CircuitState.decode (d : Document) : Option CircuitState := d.asName?.bind CircuitState.ofName?

/-- Writes the state of a circuit. -/
def CircuitState.encode (s : CircuitState) : Document := .text s.name

namespace BreakerStatus

/-- The fields of a report, in order. -/
def fieldNames : List String :=
  ["serviceName", "state", "failureCount", "successCount", "lastFailureTime", "nextAttemptTime",
    "isAvailable"]

/-- Reads a report. -/
def decode (surplus : Surplus) (d : Document) : Option BreakerStatus := do
  let r ← d.record? surplus fieldNames
  let serviceName ← (r "serviceName").required asText?
  let state ← (r "state").required CircuitState.decode
  let failureCount ← (r "failureCount").required asWord32?
  let successCount ← (r "successCount").required asWord64?
  let lastFailureTime ← (r "lastFailureTime").nullable asWord64?
  let nextAttemptTime ← (r "nextAttemptTime").nullable asWord64?
  let isAvailable ← (r "isAvailable").required asBool?
  some { serviceName, state, failureCount, successCount, lastFailureTime, nextAttemptTime,
         isAvailable }

/-- Writes a report. -/
def encode (s : BreakerStatus) : Document :=
  .table
    [("serviceName", .text s.serviceName), ("state", s.state.encode),
      ("failureCount", word32 s.failureCount), ("successCount", word64 s.successCount),
      ("lastFailureTime", Document.optional word64 s.lastFailureTime),
      ("nextAttemptTime", Document.optional word64 s.nextAttemptTime),
      ("isAvailable", .bool s.isAvailable)]

end BreakerStatus

end Safeguard
