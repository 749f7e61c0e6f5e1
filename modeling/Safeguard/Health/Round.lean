import Safeguard.Health.Check
import Safeguard.Registry
import Safeguard.Retry.Run

/-!
# Rounds of health checks

A round runs every registered check once, each retried and as one call through a breaker of its
own. What a check does is fixed when it begins: a `Probe` knows when it will be invoked, what it
will report and what it will find, provided that its breaker lets it through. So a round is a list
of moments, each belonging to a probe, and `Round.step` plays one of them. Probes that overlap
play their moments in the order of time. Within one instant, what is found on the side comes last,
and otherwise the order is that of the names. Probes that follow one another play all moments of
one before the next begins.

Every check has a result at the end: a check that is turned away or fails is down with the text of
its error.
-/

namespace Safeguard

/-- The name of the breaker that guards a check. -/
def checkBreaker (check : String) : String := "health-" ++ check

/-- A check that is about to run. -/
structure Probe where
  name : String
  begun : Nat
  /-- Whether the check finds out on the side. -/
  aside : Bool
  /-- What comes of the check if its breaker lets it through. -/
  run : Run (Reply Finding)

/-- What happens to a probe at a moment. -/
inductive Moment
  /-- The breaker is asked. -/
  | ask
  /-- The retries report something. -/
  | report (notice : Notice)
  /-- The check is over. -/
  | settle
  deriving DecidableEq

namespace Probe

/-- A check that begins at an instant. -/
def start (retry : Retry) (now : Nat) (name : String) (check : Check) : Probe where
  name
  begun := now
  aside := check.aside
  run := retry.run check.script now

/-- All moments of a probe. -/
def moments (p : Probe) : List (Nat × Probe × Moment) :=
  (p.begun, p, .ask) :: p.run.notices.map (fun n => (n.1, p, .report n.2)) ++
    [(p.run.finished, p, .settle)]

/-- Whether a moment of a probe comes after everything else of its instant. -/
def isLate (p : Probe) : Moment → Bool
  | .ask => false
  | _ => p.aside

end Probe

/-- Whether a moment may be played before another one. -/
def mayPrecede : (a b : Nat × Probe × Moment) → Bool
  | (time, p, moment), (time', p', moment') =>
    time < time' || time == time' && (!p.isLate moment || p'.isLate moment')

/-- A round that is under way. -/
structure Round where
  clock : Clock
  registry : Registry
  /-- The checks that were let through, and when they were invoked. -/
  invocations : NameMap (List Nat) := .empty
  /-- The results so far. -/
  services : NameMap ServiceHealth := .empty
  notices : List Notice := []

namespace Round

/-- The state of a check's circuit. -/
def circuitState (r : Round) (check : String) : Option CircuitState :=
  (r.registry.get? (checkBreaker check)).map fun b => b.circuit.state

/-- Puts down the result of a check that began at an instant. -/
def conclude (r : Round) (p : Probe) (reply : CallReply Finding) : Round :=
  let responseTime := r.clock.now - p.begun
  let circuitState := r.circuitState p.name
  let lastCheck := r.clock.unixMillis
  match reply with
  | .ok finding =>
    let health : ServiceHealth :=
      { status := finding.status, responseTime := some responseTime, error := finding.error
        circuitState, lastCheck }
    { r with services := r.services.insert p.name health }
  | .error error =>
    let health : ServiceHealth :=
      { status := .down, error := some error.message, circuitState, lastCheck }
    { r with
      services := r.services.insert p.name health
      notices := r.notices ++ [.log (.checkFailed p.name error.message responseTime)] }

/-- The breaker of a probe is asked. -/
def ask (policy : BreakerPolicy) (r : Round) (p : Probe) : Round :=
  let name := checkBreaker p.name
  match r.registry.ask r.clock name (some policy) with
  | (.admitted _, registry, notices) =>
    { r with
      registry
      invocations := r.invocations.insert p.name p.run.invocations
      notices := r.notices ++ notices }
  | (.rejected retryIn, registry, notices) =>
    conclude { r with registry, notices := r.notices ++ notices } p
      (.error (.rejected name retryIn))

/-- The breaker of a probe learns what came of it. -/
def settle (r : Round) (p : Probe) : Round :=
  let reply := CallReply.ofReply p.run.reply
  let (registry, notices) := r.registry.settle r.clock.now (checkBreaker p.name) reply
  conclude { r with registry, notices := r.notices ++ notices } p reply

/-- Plays one moment. Nothing more happens to a check that was turned away. -/
def step (policy : BreakerPolicy) (r : Round) : Nat × Probe × Moment → Round
  | (time, p, moment) =>
    let later : Round := { r with clock := r.clock.waitUntil time }
    match moment with
    | .ask => later.ask policy p
    | .report notice =>
      if r.invocations.contains p.name then
        { later with notices := later.notices ++ [notice] }
      else r
    | .settle => if r.invocations.contains p.name then later.settle p else r

/-- Plays moments one after the other. -/
def play (policy : BreakerPolicy) (r : Round) (moments : List (Nat × Probe × Moment)) : Round :=
  moments.foldl (step policy) r

/-- Runs checks that overlap. -/
def runOverlapping (policy : BreakerPolicy) (retry : Retry) (r : Round)
    (checks : List (String × Check)) : Round :=
  let probes := checks.map fun (name, check) => Probe.start retry r.clock.now name check
  r.play policy ((probes.flatMap Probe.moments).mergeSort mayPrecede)

/-- Runs checks one after the other. -/
def runInTurn (policy : BreakerPolicy) (retry : Retry) (r : Round)
    (checks : List (String × Check)) : Round :=
  checks.foldl
    (fun r (name, check) =>
      r.play policy (Probe.start retry r.clock.now name check).moments)
    r

end Round

end Safeguard
