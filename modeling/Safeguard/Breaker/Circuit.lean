import Safeguard.Breaker.State
import Safeguard.Config.BreakerPolicy

/-!
# Circuits

A `Circuit` is what a breaker remembers between calls: its state, its counters, when a trial call
may pass and whether one is out. A call asks to be let through with `ask` and gets a `Permit` or
is turned away; it settles with `succeed` or `fail`, and a permit that is given up goes back with
`abandon`. Every operation takes the instant at which it happens.

`failures` counts the failures since the last success and stops at the largest number of 32 bits.
While the circuit is open a late failure starts the wait anew; while it is half open one trial
call may be out, and no other call is let through until that has settled or been given up. A
settlement is that of the trial if the circuit is half open, whoever holds the permit.
-/

namespace Safeguard

/-- Leave to run one call. -/
structure Permit where
  /-- Whether the call tries out a half-open circuit. -/
  trial : Bool
  deriving DecidableEq

/-- Whether a call may run. -/
inductive Admission
  | admitted (permit : Permit)
  /-- The call is turned away; the time until a trial call is let through, if that is known. -/
  | rejected (retryIn : Option Nat)
  deriving DecidableEq

/-- What a breaker remembers between calls. -/
structure Circuit where
  state : CircuitState := .closed
  failures : Nat := 0
  successes : Nat := 0
  lastFailure : Option Nat := none
  /-- When an open circuit lets a trial call through. -/
  nextAttempt : Option Nat := none
  /-- Whether the place of the trial call is taken. -/
  trialOut : Bool := false
  deriving DecidableEq

namespace Circuit

/-- The time that an open circuit still turns calls away, if it does. -/
def remaining? (c : Circuit) (now : Nat) : Option Nat :=
  (c.nextAttempt.filter fun next => now < next).map fun next => next - now

/-- Lets a call through or turns it away. An open circuit whose wait is over becomes half open
and takes the call as its trial. -/
def ask (c : Circuit) (now : Nat) : Admission × Circuit :=
  match c.state with
  | .closed => (.admitted ⟨false⟩, c)
  | .opened =>
    match c.remaining? now with
    | some wait => (.rejected (some wait), c)
    | none =>
      (.admitted ⟨true⟩, { c with state := .halfOpen, nextAttempt := none, trialOut := true })
  | .halfOpen =>
    if c.trialOut then (.rejected none, c)
    else (.admitted ⟨true⟩, { c with trialOut := true })

/-- The circuit with its wait begun anew: one recovery time from `now`. -/
def rearm (p : BreakerPolicy) (now : Nat) (c : Circuit) : Circuit :=
  { c with nextAttempt := some (now + p.recoveryTimeout) }

/-- The circuit open for one recovery time from `now`. -/
def trip (p : BreakerPolicy) (now : Nat) (c : Circuit) : Circuit :=
  { c.rearm p now with state := .opened, trialOut := false }

/-- Records a success, which closes a half-open circuit. -/
def succeed (c : Circuit) : Circuit :=
  let counted := { c with failures := 0, successes := c.successes + 1 }
  if c.state = .halfOpen then { counted with state := .closed, trialOut := false } else counted

/-- Records a failure, which opens a half-open circuit, and a closed one that has reached its
threshold. An open circuit at its threshold waits anew. -/
def fail (p : BreakerPolicy) (now : Nat) (c : Circuit) : Circuit :=
  let counted :=
    { c with failures := min (c.failures + 1) 4294967295, lastFailure := some now }
  match c.state with
  | .halfOpen => counted.trip p now
  | .closed => if p.failureThreshold.toNat ≤ counted.failures then counted.trip p now else counted
  | .opened =>
    if p.failureThreshold.toNat ≤ counted.failures then counted.rearm p now else counted

/-- Takes back a permit of a call that never settled: the place of the trial call is free
again. -/
def abandon (permit : Permit) (c : Circuit) : Circuit :=
  if permit.trial ∧ c.state = .halfOpen then { c with trialOut := false } else c

/-- Whether a report calls the circuit available: it is not open, or its wait is over. -/
def isAvailable (c : Circuit) (now : Nat) : Bool :=
  c.state ≠ .opened || c.nextAttempt.all fun next => next ≤ now

/-! ## What the operations leave alone -/

/-- A call that is turned away changes nothing. -/
theorem ask_of_rejected {c c' : Circuit} {now : Nat} {retryIn : Option Nat}
    (h : c.ask now = (.rejected retryIn, c')) : c' = c := by
  unfold ask at h
  split at h
  · simp at h
  · split at h <;> simp_all
  · split at h <;> simp_all

/-- A call that asks changes no counter. -/
theorem ask_counters (c : Circuit) (now : Nat) :
    (c.ask now).2.failures = c.failures ∧ (c.ask now).2.successes = c.successes ∧
      (c.ask now).2.lastFailure = c.lastFailure := by
  unfold ask
  split
  · simp
  · split <;> simp
  · split <;> simp

theorem abandon_counters (permit : Permit) (c : Circuit) :
    (c.abandon permit).failures = c.failures ∧ (c.abandon permit).successes = c.successes ∧
      (c.abandon permit).lastFailure = c.lastFailure := by
  unfold abandon
  split <;> simp

theorem rearm_counters (p : BreakerPolicy) (now : Nat) (c : Circuit) :
    (c.rearm p now).failures = c.failures ∧ (c.rearm p now).successes = c.successes ∧
      (c.rearm p now).lastFailure = c.lastFailure := ⟨rfl, rfl, rfl⟩

theorem trip_counters (p : BreakerPolicy) (now : Nat) (c : Circuit) :
    (c.trip p now).failures = c.failures ∧ (c.trip p now).successes = c.successes ∧
      (c.trip p now).lastFailure = c.lastFailure := ⟨rfl, rfl, rfl⟩

theorem succeed_counters (c : Circuit) :
    c.succeed.failures = 0 ∧ c.succeed.successes = c.successes + 1 ∧
      c.succeed.lastFailure = c.lastFailure := by
  unfold succeed
  dsimp only
  split <;> simp

theorem fail_counters (c : Circuit) (p : BreakerPolicy) (now : Nat) :
    (c.fail p now).failures = min (c.failures + 1) 4294967295 ∧
      (c.fail p now).successes = c.successes ∧ (c.fail p now).lastFailure = some now := by
  unfold fail
  dsimp only
  split
  · simp [trip_counters]
  · split <;> simp [trip_counters]
  · split <;> simp [rearm_counters]

@[simp] theorem failures_succeed (c : Circuit) : c.succeed.failures = 0 := c.succeed_counters.1

@[simp] theorem successes_succeed (c : Circuit) : c.succeed.successes = c.successes + 1 :=
  c.succeed_counters.2.1

@[simp] theorem lastFailure_succeed (c : Circuit) : c.succeed.lastFailure = c.lastFailure :=
  c.succeed_counters.2.2

@[simp] theorem failures_fail (p : BreakerPolicy) (now : Nat) (c : Circuit) :
    (c.fail p now).failures = min (c.failures + 1) 4294967295 := (c.fail_counters p now).1

@[simp] theorem successes_fail (p : BreakerPolicy) (now : Nat) (c : Circuit) :
    (c.fail p now).successes = c.successes := (c.fail_counters p now).2.1

@[simp] theorem lastFailure_fail (p : BreakerPolicy) (now : Nat) (c : Circuit) :
    (c.fail p now).lastFailure = some now := (c.fail_counters p now).2.2

/-! ## What the operations do to the state -/

/-- Everything that can come of asking. -/
theorem ask_cases (c : Circuit) (now : Nat) :
    (c.state = .closed ∧ c.ask now = (.admitted ⟨false⟩, c)) ∨
      (c.state = .opened ∧ c.remaining? now = none ∧
        c.ask now =
          (.admitted ⟨true⟩,
            { c with state := .halfOpen, nextAttempt := none, trialOut := true })) ∨
      (c.state = .halfOpen ∧ c.trialOut = false ∧
        c.ask now = (.admitted ⟨true⟩, { c with trialOut := true })) ∨
      (c.state = .opened ∧ ∃ wait, c.remaining? now = some wait ∧
        c.ask now = (.rejected (some wait), c)) ∨
      (c.state = .halfOpen ∧ c.trialOut = true ∧ c.ask now = (.rejected none, c)) := by
  unfold ask
  cases state : c.state with
  | closed => simp
  | opened => cases wait : c.remaining? now <;> simp
  | halfOpen => cases c.trialOut <;> simp

/-- Asking closes no circuit. -/
theorem closed_of_ask {c : Circuit} {now : Nat} (closed : (c.ask now).2.state = .closed) :
    c.state = .closed := by
  obtain ⟨state, -⟩ | ⟨-, -, eq⟩ | ⟨-, -, eq⟩ | ⟨-, wait, -, eq⟩ | ⟨-, -, eq⟩ := c.ask_cases now
  · exact state
  · rw [eq] at closed
    cases closed
  all_goals rwa [eq] at closed

/-- An open circuit turns calls away until the end of its wait. -/
theorem ask_of_waiting {c : Circuit} {now next : Nat} (state : c.state = .opened)
    (eq : c.nextAttempt = some next) (lt : now < next) :
    c.ask now = (.rejected (some (next - now)), c) := by
  have remaining : c.remaining? now = some (next - now) := by
    simp [remaining?, eq, Option.filter, lt]
  simp only [ask, state, remaining]

/-- Whether one more failure brings the circuit to its threshold. -/
def AtThreshold (p : BreakerPolicy) (c : Circuit) : Prop :=
  p.failureThreshold.toNat ≤ min (c.failures + 1) 4294967295

instance (p : BreakerPolicy) (c : Circuit) : Decidable (c.AtThreshold p) :=
  inferInstanceAs (Decidable (_ ≤ _))

theorem state_succeed (c : Circuit) :
    c.succeed.state = if c.state = .halfOpen then .closed else c.state := by
  unfold succeed
  split <;> rfl

theorem nextAttempt_succeed (c : Circuit) : c.succeed.nextAttempt = c.nextAttempt := by
  unfold succeed
  split <;> rfl

theorem trialOut_succeed (c : Circuit) :
    c.succeed.trialOut = if c.state = .halfOpen then false else c.trialOut := by
  unfold succeed
  split <;> rfl

theorem state_fail (c : Circuit) (p : BreakerPolicy) (now : Nat) :
    (c.fail p now).state =
      if c.state = .halfOpen ∨ c.AtThreshold p then .opened else c.state := by
  unfold fail AtThreshold
  cases state : c.state <;> simp [trip, rearm] <;> split <;> simp_all

theorem nextAttempt_fail (c : Circuit) (p : BreakerPolicy) (now : Nat) :
    (c.fail p now).nextAttempt =
      if c.state = .halfOpen ∨ c.AtThreshold p then some (now + p.recoveryTimeout)
      else c.nextAttempt := by
  unfold fail AtThreshold
  cases state : c.state <;> simp [trip, rearm] <;> split <;> simp_all

theorem trialOut_fail (c : Circuit) (p : BreakerPolicy) (now : Nat) :
    (c.fail p now).trialOut = true ↔
      c.trialOut = true ∧ c.state ≠ .halfOpen ∧ (c.state = .closed → ¬ c.AtThreshold p) := by
  unfold fail AtThreshold
  cases state : c.state <;> simp [trip, rearm] <;> split <;> simp_all

/-- A failure that leaves a circuit closed leaves it below the threshold. -/
theorem failures_fail_lt {c : Circuit} {p : BreakerPolicy} {now : Nat}
    (closed : (c.fail p now).state = .closed) :
    (c.fail p now).failures < p.failureThreshold.toNat := by
  rw [state_fail] at closed
  split at closed
  · cases closed
  · rename_i kept
    rw [failures_fail]
    exact Nat.lt_of_not_le fun reached => kept (.inr reached)

/-- A failure never leaves a circuit half open. -/
theorem state_fail_ne_halfOpen (c : Circuit) (p : BreakerPolicy) (now : Nat) :
    (c.fail p now).state ≠ .halfOpen := by
  rw [state_fail]
  split
  · simp
  · rename_i h
    exact fun state => h (.inl state)

/-- A success never leaves a circuit half open. -/
theorem state_succeed_ne_halfOpen (c : Circuit) : c.succeed.state ≠ .halfOpen := by
  rw [state_succeed]
  split
  · simp
  · assumption

theorem abandon_of_trial {permit : Permit} {c : Circuit} (trial : permit.trial = true)
    (state : c.state = .halfOpen) : c.abandon permit = { c with trialOut := false } := by
  simp [abandon, trial, state]

theorem abandon_of_not {permit : Permit} {c : Circuit}
    (h : ¬ (permit.trial = true ∧ c.state = .halfOpen)) : c.abandon permit = c := by
  simp [abandon, h]

theorem state_abandon (permit : Permit) (c : Circuit) : (c.abandon permit).state = c.state := by
  unfold abandon
  split <;> rfl

theorem trialOut_abandon (permit : Permit) {c : Circuit} (free : c.trialOut = false) :
    (c.abandon permit).trialOut = false := by
  unfold abandon
  split
  · rfl
  · exact free

theorem nextAttempt_abandon (permit : Permit) (c : Circuit) :
    (c.abandon permit).nextAttempt = c.nextAttempt := by
  unfold abandon
  split <;> rfl

end Circuit

end Safeguard
