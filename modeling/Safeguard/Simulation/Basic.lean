import Safeguard.Metrics
import Safeguard.Simulation.Command
import Safeguard.Startup

/-!
# Simulations

A `Simulation` is a service under a clock of its own, with what is needed to drive it: the calls
on their way, the receivers of the shutdown signal, and a record of when checks were invoked.
Random draws are all zero.
-/

namespace Safeguard

/-- Where the events of breakers and retries go. -/
inductive Sink
  /-- They are shown and measured. -/
  | shown
  /-- They are measured. -/
  | measured
  | ignored
  deriving DecidableEq

/-- When a check was invoked. -/
structure CheckLog where
  invocations : List Nat := []
  /-- Whether invocations are put down. -/
  counted : Bool := true

/-- A service that is being simulated. -/
structure Simulation where
  clock : Clock
  network : Network
  sink : Sink
  key : Option String
  registry : Registry
  monitor : Monitor
  metrics : Metrics := {}
  signal : Signal := {}
  receivers : NameMap Receiver := .empty
  waiters : NameMap Waiter := .empty
  calls : NameMap (InFlight Document) := .empty
  checkLogs : NameMap CheckLog := .empty

/-- How a simulation is set up. -/
inductive Assembly
  /-- Part by part, with events that are shown. -/
  | byHand
  /-- As a service is put together at its start. -/
  | asService
  /-- With the default registry, whose events are ignored. -/
  | byDefault

/-- What a simulation starts from. -/
structure Setup where
  wallStart : Int
  network : Network
  configuration : Configuration
  assembly : Assembly

namespace Setup

/-- The clock at the start. -/
def clock (s : Setup) : Clock := { wallStart := s.wallStart }

/-- A simulation of parts. -/
def assemble (s : Setup) (sink : Sink) (registry : Registry) (monitor : Monitor) : Simulation where
  clock := s.clock
  network := s.network
  sink
  key := effectiveKey s.configuration.admin.apiKey
  registry
  monitor

/-- A monitor without checks. -/
def emptyMonitor (s : Setup) : Monitor :=
  { settings := s.configuration.health, started := s.clock.now }

/-- The simulation at its start, and what was reported until then. -/
def start (s : Setup) : Simulation × List Notice :=
  match s.assembly with
  | .byHand => (s.assemble .shown (Components.registryOf s.configuration) s.emptyMonitor, [])
  | .asService =>
    let (parts, notices) := Components.build s.network s.clock s.configuration
    let sink := if s.configuration.observability.metricsEnabled then .measured else .ignored
    (s.assemble sink parts.registry parts.monitor, notices)
  | .byDefault => (s.assemble .ignored {} s.emptyMonitor, [])

end Setup

namespace Simulation

/-- The draw of every attempt. -/
def draw : Nat → Float := fun _ => 0.0

/-- Retries by a policy. -/
def retryBy (policy : RetryPolicy) : Retry := .ofPolicy policy draw

/-- The state that the admin interface works on. -/
def adminState (s : Simulation) : AdminState :=
  { key := s.key, registry := s.registry, monitor := s.monitor, clock := s.clock }

/-- The log of a check after a round of checks. -/
def extendLog (invocations : NameMap (List Nat)) (name : String) (log : CheckLog) : CheckLog :=
  if log.counted then
    { log with invocations := log.invocations ++ (invocations.get? name).getD [] }
  else log

/-- Takes over what a round of health checks leaves behind. -/
def absorb (s : Simulation) (e : Examination) : Simulation :=
  { s with
    clock := e.clock
    registry := e.registry
    monitor := e.monitor
    metrics := s.metrics.recordHealth e.health
    checkLogs := s.checkLogs.map (extendLog e.invocations) }

/-- Starts the log of a check that is registered, in place of the one of the same name. -/
def startLog (s : Simulation) (name : String) (counted : Bool) : Simulation :=
  { s with checkLogs := s.checkLogs.insert name { counted } }

/-- The name of the breaker that a command is about. -/
def subjectName? (s : Simulation) : Subject → Option String
  | .none => none
  | .breaker name => some name
  | .call id => (s.calls.get? id).map fun c => c.dependency

end Simulation

end Safeguard
