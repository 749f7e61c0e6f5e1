import Safeguard.Breaker.State
import Safeguard.Time.Basic

/-!
# What operations report

Operations report what happens in two ways: `Event`s, for counters and dashboards, and `LogEntry`s,
for people. A `Notice` is one of either kind; operations return the notices of what they did in
order. The wording of the log is in `LogEntry.level`, `LogEntry.message` and `LogEntry.fields`.
-/

namespace Safeguard

/-- Something that counters and dashboards want to know. -/
inductive Event
  /-- A circuit moved between states. -/
  | stateChanged (dependency : String) (before after : CircuitState)
  /-- A call was rejected without running. -/
  | callRejected (dependency : String)
  /-- A protected call ended. -/
  | callCompleted (dependency : String) (success : Bool)
  /-- Another attempt was scheduled after one failed. -/
  | retryScheduled (attempt : Nat) (delay : Nat) (error : String)
  deriving DecidableEq

/-- How much a log entry matters. -/
inductive LogLevel
  | debug
  | info
  | warn
  deriving DecidableEq

/-- Something that the log tells. -/
inductive LogEntry
  | breakerCreated (dependency : String) (failureThreshold : UInt32) (recoveryTimeout : Nat)
  | breakerHalfOpened (dependency : String)
  | breakerClosed (dependency : String)
  | breakerOpened (dependency : String) (failures : Nat) (before : CircuitState)
      (recoveryTimeout : Nat)
  | breakerReset (dependency : String)
  | breakerForcedOpen (dependency : String) (recoveryTimeout : Nat)
  | callRejected (dependency : String)
  | callTimedOut (dependency : String) (limit : Nat)
  | retrySucceeded (attempt : Nat)
  | retriesExhausted (attempt maxAttempts : Nat) (error : String)
  | errorIsPermanent (attempt : Nat) (error : String)
  | budgetExhausted (attempt : Nat) (budget : Nat)
  | retrying (attempt maxAttempts : Nat) (delay : Nat) (error : String)
  | checkRegistered (check : String) (replaced : Bool)
  | targetRegistered (check address : String)
  | checkFailed (check error : String) (responseTime : Nat)
  | resetRequested (dependency : String) (success : Bool)
  | forceOpenRequested (dependency : String) (success : Bool)
  | requestUnauthenticated (path : String)
  | adminStarting
  | adminStopped
  deriving DecidableEq

namespace LogLevel

/-- The name of a level. -/
def name : LogLevel → String
  | debug => "DEBUG"
  | info => "INFO"
  | warn => "WARN"

end LogLevel

namespace LogEntry

/-- How much an entry matters. -/
def level : LogEntry → LogLevel
  | breakerCreated .. | breakerHalfOpened .. | breakerClosed .. | breakerReset ..
  | targetRegistered .. | resetRequested .. | forceOpenRequested .. | adminStarting
  | adminStopped => .info
  | breakerOpened .. | breakerForcedOpen .. | callTimedOut .. | checkFailed ..
  | requestUnauthenticated .. => .warn
  | callRejected .. | retrySucceeded .. | retriesExhausted .. | errorIsPermanent ..
  | budgetExhausted .. | retrying .. | checkRegistered .. => .debug

/-- What an entry says. -/
def message : LogEntry → String
  | breakerCreated .. => "Circuit breaker created"
  | breakerHalfOpened .. => "Circuit breaker half-open, admitting trial call"
  | breakerClosed .. => "Circuit breaker closed, dependency recovered"
  | breakerOpened .. => "Circuit breaker opened"
  | breakerReset .. => "Circuit breaker reset"
  | breakerForcedOpen .. => "Circuit breaker forced open"
  | callRejected .. => "Circuit open, rejecting call"
  | callTimedOut .. => "Protected call timed out"
  | retrySucceeded .. => "Operation succeeded after retry"
  | retriesExhausted .. => "Retry attempts exhausted"
  | errorIsPermanent .. => "Error is not retryable"
  | budgetExhausted .. => "Retry budget exhausted"
  | retrying .. => "Retrying operation"
  | checkRegistered .. => "Health check registered"
  | targetRegistered .. => "Registered reachability check"
  | checkFailed .. => "Health check failed"
  | resetRequested .. => "Admin reset requested"
  | forceOpenRequested .. => "Admin force-open requested"
  | requestUnauthenticated .. => "Rejected unauthenticated admin request"
  | adminStarting => "Admin server starting"
  | adminStopped => "Admin server stopped"

/-- A duration of a log entry, in whole milliseconds. -/
def millisField (d : Nat) : Document := .nat (wholeMillis d).toNat

/-- The details of an entry. -/
def fields : LogEntry → List (String × Document)
  | breakerCreated dependency failureThreshold recoveryTimeout =>
    [("dependency", .text dependency), ("failure_threshold", .nat failureThreshold.toNat),
      ("recovery_timeout_ms", millisField recoveryTimeout)]
  | breakerHalfOpened dependency => [("dependency", .text dependency)]
  | breakerClosed dependency => [("dependency", .text dependency)]
  | breakerOpened dependency failures before recoveryTimeout =>
    [("dependency", .text dependency), ("failures", .nat failures), ("from", .text before.name),
      ("recovery_timeout_ms", millisField recoveryTimeout)]
  | breakerReset dependency => [("dependency", .text dependency)]
  | breakerForcedOpen dependency recoveryTimeout =>
    [("dependency", .text dependency), ("recovery_timeout_ms", millisField recoveryTimeout)]
  | callRejected dependency => [("dependency", .text dependency)]
  | callTimedOut dependency limit =>
    [("dependency", .text dependency), ("timeout_ms", millisField limit)]
  | retrySucceeded attempt => [("attempt", .nat attempt)]
  | retriesExhausted attempt maxAttempts error =>
    [("attempt", .nat attempt), ("max_attempts", .nat maxAttempts), ("error", .text error)]
  | errorIsPermanent attempt error => [("attempt", .nat attempt), ("error", .text error)]
  | budgetExhausted attempt budget =>
    [("attempt", .nat attempt), ("budget_ms", millisField budget)]
  | retrying attempt maxAttempts delay error =>
    [("attempt", .nat attempt), ("max_attempts", .nat maxAttempts),
      ("delay_ms", millisField delay), ("error", .text error)]
  | checkRegistered check replaced => [("check", .text check), ("replaced", .bool replaced)]
  | targetRegistered check address => [("check", .text check), ("address", .text address)]
  | checkFailed check error responseTime =>
    [("check", .text check), ("error", .text error),
      ("response_time_ms", millisField responseTime)]
  | resetRequested dependency success =>
    [("dependency", .text dependency), ("success", .bool success)]
  | forceOpenRequested dependency success =>
    [("dependency", .text dependency), ("success", .bool success)]
  | requestUnauthenticated path => [("path", .text path)]
  | adminStarting => []
  | adminStopped => []

end LogEntry

/-- Something that an operation reports. -/
inductive Notice
  | event (e : Event)
  | log (l : LogEntry)
  deriving DecidableEq

namespace Notice

/-- The event, if it is one. -/
def event? : Notice → Option Event
  | event e => some e
  | log _ => none

/-- The log entry, if it is one. -/
def log? : Notice → Option LogEntry
  | event _ => none
  | log l => some l

/-- The events among notices. -/
def events (notices : List Notice) : List Event := notices.filterMap event?

/-- The log entries among notices. -/
def logs (notices : List Notice) : List LogEntry := notices.filterMap log?

@[simp] theorem events_append (a b : List Notice) : events (a ++ b) = events a ++ events b :=
  List.filterMap_append

@[simp] theorem logs_append (a b : List Notice) : logs (a ++ b) = logs a ++ logs b :=
  List.filterMap_append

end Notice

end Safeguard
