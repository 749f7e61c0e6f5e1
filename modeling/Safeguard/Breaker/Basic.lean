import Safeguard.Breaker.Circuit
import Safeguard.Breaker.Status
import Safeguard.Notice
import Safeguard.Time.Wall

/-!
# Circuit breakers

A `Breaker` guards the calls to one dependency: a circuit under a name and a policy. Each
operation changes the circuit and returns the notices of what happened: a log entry where one is
due, then the event of the call, then the change of state if there is one.
-/

namespace Safeguard

/-- A circuit breaker. -/
structure Breaker where
  name : String
  policy : BreakerPolicy
  /-- Relates the instants of the circuit to the wall clock. -/
  anchor : Anchor
  circuit : Circuit := {}

namespace Breaker

/-- A new breaker, with a closed circuit. -/
def create (name : String) (policy : BreakerPolicy) (clock : Clock) : Breaker where
  name
  policy
  anchor := .ofClock clock

/-- The event of a change of state, if there is one. -/
def stateNotices (name : String) (before after : CircuitState) : List Notice :=
  if before = after then [] else [.event (.stateChanged name before after)]

/-- Lets a call through or turns it away. -/
def ask (b : Breaker) (now : Nat) : Admission × Breaker × List Notice :=
  let (admission, circuit) := b.circuit.ask now
  let notices :=
    match admission with
    | .rejected _ => [.log (.callRejected b.name), .event (.callRejected b.name)]
    | .admitted _ =>
      if b.circuit.state = .opened then
        .log (.breakerHalfOpened b.name) :: stateNotices b.name .opened circuit.state
      else []
  (admission, { b with circuit }, notices)

/-- Records that a call succeeded. -/
def succeed (b : Breaker) : Breaker × List Notice :=
  let circuit := b.circuit.succeed
  let logs := if b.circuit.state = circuit.state then [] else [.log (.breakerClosed b.name)]
  ({ b with circuit },
    logs ++ .event (.callCompleted b.name true) ::
      stateNotices b.name b.circuit.state circuit.state)

/-- Records that a call failed. -/
def fail (b : Breaker) (now : Nat) : Breaker × List Notice :=
  let circuit := b.circuit.fail b.policy now
  let logs :=
    if b.circuit.state = circuit.state then []
    else
      [.log (.breakerOpened b.name circuit.failures b.circuit.state b.policy.recoveryTimeout)]
  ({ b with circuit },
    logs ++ .event (.callCompleted b.name false) ::
      stateNotices b.name b.circuit.state circuit.state)

/-- Takes back a permit of a call that never settled. -/
def abandon (b : Breaker) (permit : Permit) : Breaker :=
  { b with circuit := b.circuit.abandon permit }

/-- Closes the circuit and forgets what happened. -/
def reset (b : Breaker) : Breaker × List Notice :=
  ({ b with circuit := {} },
    .log (.breakerReset b.name) :: stateNotices b.name b.circuit.state .closed)

/-- Opens the circuit for one recovery time. -/
def forceOpen (b : Breaker) (now : Nat) : Breaker × List Notice :=
  ({ b with circuit := b.circuit.trip b.policy now },
    .log (.breakerForcedOpen b.name b.policy.recoveryTimeout) ::
      stateNotices b.name b.circuit.state .opened)

/-- What the breaker reports about itself. -/
def status (b : Breaker) (now : Nat) : BreakerStatus where
  serviceName := b.name
  state := b.circuit.state
  failureCount := UInt32.ofNat b.circuit.failures
  successCount := UInt64.ofNat b.circuit.successes
  lastFailureTime := b.circuit.lastFailure.map b.anchor.unixMillis
  nextAttemptTime := b.circuit.nextAttempt.map b.anchor.unixMillis
  isAvailable := b.circuit.isAvailable now

/-! ## What the operations leave alone -/

/-- Two breakers of one name, with one policy and one anchor. -/
def SameGuard (a b : Breaker) : Prop :=
  a.name = b.name ∧ a.policy = b.policy ∧ a.anchor = b.anchor

theorem SameGuard.refl (b : Breaker) : SameGuard b b := ⟨rfl, rfl, rfl⟩

theorem SameGuard.trans {a b c : Breaker} (h : SameGuard a b) (h' : SameGuard b c) :
    SameGuard a c :=
  ⟨h.1.trans h'.1, h.2.1.trans h'.2.1, h.2.2.trans h'.2.2⟩

theorem sameGuard_ask (b : Breaker) (now : Nat) : SameGuard (b.ask now).2.1 b := ⟨rfl, rfl, rfl⟩

theorem sameGuard_succeed (b : Breaker) : SameGuard b.succeed.1 b := ⟨rfl, rfl, rfl⟩

theorem sameGuard_fail (b : Breaker) (now : Nat) : SameGuard (b.fail now).1 b := ⟨rfl, rfl, rfl⟩

theorem sameGuard_abandon (b : Breaker) (permit : Permit) : SameGuard (b.abandon permit) b :=
  ⟨rfl, rfl, rfl⟩

theorem sameGuard_reset (b : Breaker) : SameGuard b.reset.1 b := ⟨rfl, rfl, rfl⟩

theorem sameGuard_forceOpen (b : Breaker) (now : Nat) : SameGuard (b.forceOpen now).1 b :=
  ⟨rfl, rfl, rfl⟩

/-! ## What the operations do to the circuit -/

@[simp] theorem circuit_ask (b : Breaker) (now : Nat) :
    (b.ask now).2.1.circuit = (b.circuit.ask now).2 := rfl

@[simp] theorem admission_ask (b : Breaker) (now : Nat) :
    (b.ask now).1 = (b.circuit.ask now).1 := rfl

@[simp] theorem circuit_succeed (b : Breaker) : b.succeed.1.circuit = b.circuit.succeed := rfl

@[simp] theorem circuit_fail (b : Breaker) (now : Nat) :
    (b.fail now).1.circuit = b.circuit.fail b.policy now := rfl

@[simp] theorem circuit_abandon (b : Breaker) (permit : Permit) :
    (b.abandon permit).circuit = b.circuit.abandon permit := rfl

@[simp] theorem circuit_reset (b : Breaker) : b.reset.1.circuit = {} := rfl

@[simp] theorem circuit_forceOpen (b : Breaker) (now : Nat) :
    (b.forceOpen now).1.circuit = b.circuit.trip b.policy now := rfl

end Breaker

end Safeguard
