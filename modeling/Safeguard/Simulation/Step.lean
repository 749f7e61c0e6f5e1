import Safeguard.Simulation.Basic

/-!
# Steps of a simulation

`Simulation.step` carries out one command. A command that waits moves the clock to the end of its
wait. `Simulation.play` carries out commands one after the other and gives an `Entry` for each:
the time after it, its result, what was reported, and the status of the breaker that it was about.
-/

namespace Safeguard

/-- A result, the simulation after it, and what was reported. -/
abbrev Stepped := Result × Simulation × List Notice

namespace Simulation

/-- A result that leaves the simulation as it is. -/
def still (s : Simulation) (result : Result) : Stepped := (result, s, [])

/-! ## Whole calls -/

/-- Carries out calls one after the other, each given the invocations before it, and collects
their replies. -/
def sequence {ρ : Type} (call : Simulation → Nat → Run ρ × Registry) :
    (times : Nat) → Simulation → List Nat → List ρ × List Nat × Simulation × List Notice
  | 0, s, invocations => ([], invocations, s, [])
  | times + 1, s, invocations =>
    let (run, registry) := call s invocations.length
    let s := { s with registry, clock := s.clock.waitUntil run.finished }
    let (replies, invocations, s, notices) :=
      sequence call times s (invocations ++ run.invocations)
    (run.reply :: replies, invocations, s, run.reports ++ notices)

/-- Carries out one call. -/
def call (s : Simulation) (run : Run (CallReply Document)) (registry : Registry)
    (result : CallReply Document → List Nat → Result) : Stepped :=
  (result run.reply run.invocations,
    { s with registry, clock := s.clock.waitUntil run.finished }, run.reports)

/-- The operation of a script, retried if a policy is given. -/
def operation (retry : Option RetryPolicy) (script : Script Document) :
    Operation (Reply Document) :=
  match retry with
  | some policy => (retryBy policy).run script
  | none => (script 0).run

/-- A protected call. -/
def protect (s : Simulation) (p : Protection) (retry : Option RetryPolicy)
    (script : Script Document) : Stepped :=
  let (run, registry) := p.call s.registry s.clock (operation retry script)
  s.call run registry (.guarded p (p.policy s.registry))

/-- What a guarded service replies to a request. -/
def echo (request reply : Document) : Document :=
  .table [("request", request), ("reply", reply)]

/-- Requests to a guarded service, one after the other. -/
def layer (p : Protection) (readyError : Option String) (script : Script Document) :
    List Document → Simulation → List Nat →
      List (CallReply Document) × List Nat × Simulation × List Notice
  | [], s, invocations => ([], invocations, s, [])
  | request :: rest, s, invocations =>
    match readyError with
    | some error =>
      let (replies, invocations, s, notices) := layer p readyError script rest s invocations
      (.error (.failed error) :: replies, invocations, s, notices)
    | none =>
      let outcome := (script invocations.length).map (echo request)
      let (run, registry) := p.call s.registry s.clock outcome.run
      let s := { s with registry, clock := s.clock.waitUntil run.finished }
      let (replies, invocations, s, notices) :=
        layer p readyError script rest s (invocations ++ run.invocations)
      (run.reply :: replies, invocations, s, run.reports ++ notices)

/-- A retried operation without a breaker. -/
def retried (retry : Retry) (script : Script Document) (s : Simulation) (invoked : Nat) :
    Run (CallReply Document) × Registry :=
  ((retry.run (script.after invoked) s.clock.now).map .ofReply, s.registry)

/-- How a policy retries, with a test of its own if one is given. -/
def retryOf (policy : RetryPolicy) (retryable : Option (String → Bool)) : Retry :=
  match retryable with
  | some retryable => { retryBy policy with retryable }
  | none => retryBy policy

/-! ## A breaker of its own -/

/-- Puts a breaker through one act. -/
def act (clock : Clock) (b : Breaker) : Act → ActResult × Clock × Breaker × List Notice
  | .reset =>
    let (b, notices) := b.reset
    (.done, clock, b, notices)
  | .forceOpen =>
    let (b, notices) := b.forceOpen clock.now
    (.done, clock, b, notices)
  | .advance d => (.done, clock.advance d, b, [])
  | .call limit outcome =>
    let (run, b) := b.perform clock.now limit outcome.run
    (.called run.reply, clock.waitUntil run.finished, b, run.reports)

/-- Puts a breaker through acts. -/
def actAll (clock : Clock) (b : Breaker) :
    List Act → List (ActResult × BreakerStatus) × Clock × List Notice
  | [] => ([], clock, [])
  | a :: rest =>
    let (result, clock, b, notices) := act clock b a
    let (results, last, further) := actAll clock b rest
    ((result, b.status clock.now) :: results, last, notices ++ further)

/-- A breaker of its own, whose events nobody receives. -/
def solo (s : Simulation) (name : String) (policy : BreakerPolicy) (acts : List Act) : Stepped :=
  let (results, clock, notices) := actAll s.clock (.create name policy s.clock) acts
  (.solo name policy results, { s with clock }, (Notice.logs notices).map .log)

/-! ## Calls on their way -/

/-- Drops a call on its way, if it is known. -/
def dropCall (s : Simulation) (id : String) : Simulation :=
  match s.calls.get? id with
  | some c => { s with registry := c.drop s.registry, calls := s.calls.erase id }
  | none => s

/-- Puts down what a poll has found. -/
def polled (s : Simulation) (id : String)
    (found : InFlight.Result Document × Registry × List Notice) : Stepped :=
  match found with
  | (.pending c, registry, notices) =>
    (.pending c.invocations, { s with registry, calls := s.calls.insert id c }, notices)
  | (.ended reply invocations, registry, notices) =>
    (.called reply invocations, { s with registry, calls := s.calls.erase id }, notices)

/-- Starts a call; one of the same name is dropped first. -/
def start (s : Simulation) (id : String) (p : Protection) (limit : Option Nat)
    (retry : Option RetryPolicy) : Stepped :=
  let s := s.dropCall id
  s.polled id
    (InFlight.start s.registry s.clock p.dependency (p.policy s.registry) limit
      (retry.map retryBy))

/-- Polls a call, after it has been changed. -/
def pollCall (s : Simulation) (id : String) (change : InFlight Document → InFlight Document) :
    Stepped :=
  match s.calls.get? id with
  | some c => s.polled id ((change c).poll s.registry s.clock.now)
  | none => s.still (.unknownCall id)

/-! ## Health and the admin interface -/

/-- Runs a round of health checks. -/
def health (s : Simulation) : Stepped :=
  let e := s.monitor.examine s.clock s.registry draw
  (.health e.health, s.absorb e, e.notices)

/-- Answers a request. -/
def request (s : Simulation) (line : RequestLine) :
    RequestResult × Simulation × List Notice :=
  match line.request? with
  | none => (.malformed, s, [])
  | some request =>
    let a := Admin.answer s.adminState draw request
    let s := { s with registry := a.registry }
    let s :=
      match a.examination with
      | some e => s.absorb e
      | none => s
    (.answered a.response, s, a.notices)

/-- Answers requests, one after the other. -/
def requests : List RequestLine → Simulation → List RequestResult × Simulation × List Notice
  | [], s => ([], s, [])
  | line :: rest, s =>
    let (result, s, notices) := s.request line
    let (results, s, further) := requests rest s
    (result :: results, s, notices ++ further)

/-- Serves requests that come over the network until the shutdown signal, which is given after the
last one. -/
def serve (s : Simulation) (lines : List RequestLine) : Stepped :=
  let s := { s with signal := s.signal.subscribe.2 }
  let (results, s, notices) :=
    match s.network.obstacle with
    | none => requests lines s
    | some reason => (lines.map fun _ => .lost reason, s, [])
  (.served results, { s with signal := s.signal.trigger.unsubscribe },
    .log .adminStarting :: notices ++ [.log .adminStopped])

/-! ## The shutdown signal -/

/-- Takes out the receiver of a name. -/
def removeReceiver (s : Simulation) (id : String) : Simulation :=
  if s.receivers.contains id then
    { s with signal := s.signal.unsubscribe, receivers := s.receivers.erase id }
  else s

/-- Takes out the waiter of a name. -/
def removeWaiter (s : Simulation) (id : String) : Simulation :=
  match s.waiters.get? id with
  | some w => { s with signal := w.drop s.signal, waiters := s.waiters.erase id }
  | none => s

/-- Subscribes a receiver in place of the one of the same name. -/
def subscribe (s : Simulation) (id : String) : Simulation :=
  let (receiver, signal) := s.signal.subscribe
  let s := removeReceiver { s with signal } id
  { s with receivers := s.receivers.insert id receiver }

/-- Puts a waiter in place of the one of the same name. -/
def await (s : Simulation) (id : String) : Simulation :=
  let s := s.removeWaiter id
  { s with waiters := s.waiters.insert id .idle }

/-- Every receiver reads once. -/
def readAll (s : Simulation) : NameMap String × Simulation :=
  let readings := s.receivers.map fun _ r => r.read s.signal
  (readings.map fun _ r => r.1.name, { s with receivers := readings.map fun _ r => r.2 })

/-- Polls the waiter of a name. -/
def pollWaiter (seen : NameMap String) (s : Simulation) (id : String) (w : Waiter) :
    NameMap String × Simulation :=
  match w.poll s.signal with
  | (some w, signal) =>
    (seen.insert id "waiting", { s with signal, waiters := s.waiters.insert id w })
  | (none, signal) =>
    (seen.insert id "resolved", { s with signal, waiters := s.waiters.erase id })

/-- Every receiver reads once and every waiter is polled once. -/
def signals (s : Simulation) : NameMap String × Simulation :=
  s.waiters.entries.foldl (fun (seen, s) (id, w) => pollWaiter seen s id w) s.readAll

/-! ## Commands -/

/-- Carries out a command. -/
def step (s : Simulation) : Command → Stepped
  | .unreadable => s.still .unreadable
  | .advance d => ({ s with clock := s.clock.advance d } : Simulation).still .nothing
  | .create name policy =>
    let (b, registry, notices) := s.registry.getOrCreate s.clock name policy
    (.breaker b.name b.circuit.state b.policy, { s with registry }, notices)
  | .find name => s.still (.policy ((s.registry.get? name).map fun b => b.policy))
  | .policyFor name => s.still (.policy (some (s.registry.policyFor name)))
  | .reset name =>
    let (known, registry, notices) := s.registry.reset name
    (.truth known, { s with registry }, notices)
  | .forceOpen name =>
    let (known, registry, notices) := s.registry.forceOpen s.clock.now name
    (.truth known, { s with registry }, notices)
  | .statuses => s.still (.statuses (s.registry.statuses s.clock.now))
  | .census => s.still (.census s.registry.names s.registry.size s.registry.isEmpty)
  | .execute name policy limit script =>
    let (run, registry) := s.registry.perform s.clock name policy limit (script 0).run
    s.call run registry .called
  | .protect p retry script => s.protect p retry script
  | .layer p requests readyError script =>
    let (replies, invocations, s, notices) := layer p readyError script requests s []
    (.calledAll replies invocations, s, notices)
  | .retry policy retryable script =>
    let (run, registry) := retried (retryOf policy retryable) script s 0
    s.call run registry .called
  | .wrap policy times script =>
    let (replies, invocations, s, notices) :=
      sequence (retried (retryBy policy) script) times s []
    (.calledAll replies invocations, s, notices)
  | .solo name policy acts => s.solo name policy acts
  | .start id p limit retry => s.start id p limit retry
  | .finish id reply => s.pollCall id fun c => c.finish reply
  | .poll id => s.pollCall id fun c => c
  | .drop id => (.truth (s.calls.contains id), s.dropCall id, [])
  | .register name check counted =>
    let (monitor, notices) := s.monitor.register name check
    (.names monitor.names, { s.startLog name counted with monitor }, notices)
  | .unregister name =>
    let (known, monitor) := s.monitor.unregister name
    (.unregistered known monitor.names, { s with monitor }, [])
  | .checkNames => s.still (.names s.monitor.names)
  | .checkCalls => s.still (.checkCalls (s.checkLogs.map fun _ log => log.invocations))
  | .health => s.health
  | .sharedRegistry => s.still (.sharedRegistry s.registry.names)
  | .metrics => s.still (.lines s.metrics.lines)
  | .request line =>
    let (result, s, notices) := s.request line
    (.responded result, s, notices)
  | .serve lines => s.serve lines
  | .subscribe id =>
    let s := s.subscribe id
    s.still (.count s.signal.subscribers)
  | .await id =>
    let s := s.await id
    s.still (.count s.signal.subscribers)
  | .unsubscribe id =>
    let known := s.receivers.contains id || s.waiters.contains id
    let s := (s.removeReceiver id).removeWaiter id
    s.still (.unsubscribed known s.signal.subscribers)
  | .trigger =>
    let s := { s with signal := s.signal.trigger }
    s.still (.count s.signal.subscribers)
  | .signals =>
    let (seen, s) := s.signals
    s.still (.signals seen s.signal.subscribers)

/-! ## Playing commands -/

/-- The events that are measured. -/
def measure (s : Simulation) (events : List Event) : Simulation :=
  match s.sink with
  | .ignored => s
  | _ => { s with metrics := s.metrics.recordAll events }

/-- The events that are shown. -/
def shownEvents (s : Simulation) (events : List Event) : List Event :=
  match s.sink with
  | .shown => events
  | _ => []

end Simulation

/-- What is told of one command. -/
structure Entry where
  /-- The time after the command. -/
  time : Nat
  result : Result
  events : List Event
  logs : List LogEntry
  /-- The status of the breaker that the command was about, if it was about one; null if there is
  no such breaker. -/
  status : Option (Option BreakerStatus)

namespace Simulation

/-- Carries out one command and tells of it. -/
def enter (s : Simulation) (before : List Notice) (subject : Subject) (command : Command) :
    Entry × Simulation :=
  let name := s.subjectName? subject
  let (result, s, notices) := s.step command
  let events := Notice.events notices
  let s := s.measure events
  ({ time := s.clock.now, result, events := s.shownEvents events
     logs := Notice.logs (before ++ notices)
     status := name.map fun name => (s.registry.get? name).map fun b => b.status s.clock.now },
    s)

/-- Carries out commands, the first one after some notices. -/
def play : List (Subject × Command) → Simulation → List Notice → List Entry
  | [], _, _ => []
  | (subject, command) :: rest, s, before =>
    let (entry, s) := s.enter before subject command
    entry :: play rest s []

end Simulation

/-- Sets a simulation up and carries out commands. -/
def Setup.play (setup : Setup) (commands : List (Subject × Command)) : List Entry :=
  let (s, notices) := setup.start
  s.play commands notices

end Safeguard
