import Safeguard.Operation.Run
import Safeguard.Retry.Backoff
import Safeguard.Retry.Transient

/-!
# Retries

A failed attempt is followed by a `Verdict`: the attempts are used up, the error is permanent, the
next wait would overrun the budget, or there is another attempt after a wait. `Retry.run` plays
attempts until one succeeds or a verdict ends them, and passes on what the last one replied. A
`Retry` fixes what the verdicts depend on: the policy, which errors are worth another attempt, and
the random draws that shift the waits.

The time that has passed and the next wait are added up to see if the budget is overrun. There is
no verdict if the sum is too long for a duration: then the run breaks down after this attempt, and
what it is said to reply is never seen. No wait of a configuration is as long as that
(`Retry.not_overflows_of_millis`).
-/

namespace Safeguard

/-- How an operation is retried. -/
structure Retry (ε : Type := String) where
  policy : RetryPolicy
  /-- Which errors are worth another attempt. -/
  retryable : ε → Bool
  /-- The draw that shifts the wait after an attempt. -/
  draw : Nat → Float

/-- What follows a failed attempt. -/
inductive Verdict
  | exhausted
  | permanent
  | overBudget (budget : Nat)
  /-- The time that would have passed is too long for a duration. -/
  | overflow
  | again (delay : Nat)
  deriving DecidableEq

namespace Retry

variable {α ε : Type}

/-- Retries by a policy, whose markers tell which errors are worth another attempt. -/
def ofPolicy (policy : RetryPolicy) (draw : Nat → Float) : Retry where
  policy
  retryable := isTransient policy.markers
  draw

/-- The wait after an attempt. -/
def delay (r : Retry ε) (attempt : Nat) : Nat := r.policy.backoff attempt (r.draw attempt)

/-- What follows a failed attempt, `elapsed` after the start of the first one. -/
def verdict (r : Retry ε) (attempt elapsed : Nat) (error : ε) : Verdict :=
  if r.policy.attempts ≤ attempt then .exhausted
  else if r.retryable error = false then .permanent
  else
    match r.policy.maxElapsed with
    | some budget =>
      match durationSum? elapsed (r.delay attempt) with
      | some passed => if budget < passed then .overBudget budget else .again (r.delay attempt)
      | none => .overflow
    | none => .again (r.delay attempt)

/-- What is reported of a failed attempt. -/
def failureNotices [ToString ε] (r : Retry ε) (attempt : Nat) (error : ε) :
    Verdict → List Notice
  | .exhausted => [.log (.retriesExhausted attempt r.policy.attempts (toString error))]
  | .permanent => [.log (.errorIsPermanent attempt (toString error))]
  | .overBudget budget => [.log (.budgetExhausted attempt budget)]
  | .overflow => []
  | .again delay =>
    [.event (.retryScheduled attempt delay (toString error)),
      .log (.retrying attempt r.policy.attempts delay (toString error))]

/-- What is reported of an attempt that succeeded. -/
def successNotices (attempt : Nat) : List Notice :=
  if attempt = 1 then [] else [.log (.retrySucceeded attempt)]

variable [ToString ε]

/-- The attempts from number `attempt` on, the first of which begins now; `left` bounds the
attempts after it. -/
def runFrom (r : Retry ε) (script : Script α ε) (begun : Nat) :
    (left : Nat) → (attempt now : Nat) → Run (Reply α ε)
  | left, attempt, now =>
    let outcome := script (attempt - 1)
    let ended := outcome.finish now
    match outcome.reply with
    | .ok value =>
      { reply := .ok value, finished := ended, invocations := [now]
        notices := Notice.atInstant ended (successNotices attempt) }
    | .error error =>
      let verdict := r.verdict attempt (ended - begun) error
      let notices := Notice.atInstant ended (r.failureNotices attempt error verdict)
      match verdict, left with
      | .again delay, left + 1 =>
        let rest := r.runFrom script begun left (attempt + 1) (due ended delay)
        { rest with invocations := now :: rest.invocations, notices := notices ++ rest.notices }
      | _, _ => { reply := .error error, finished := ended, invocations := [now], notices }

/-- An attempt that succeeds is the last one. -/
theorem runFrom_of_ok (r : Retry ε) {script : Script α ε} (begun left attempt now : Nat) {value : α}
    (h : (script (attempt - 1)).reply = .ok value) :
    r.runFrom script begun left attempt now =
      { reply := .ok value, finished := (script (attempt - 1)).finish now, invocations := [now]
        notices :=
          Notice.atInstant ((script (attempt - 1)).finish now) (successNotices attempt) } := by
  cases left <;> simp [runFrom, h]

/-- Plays attempts until one succeeds or is not followed by another. -/
def run (r : Retry ε) (script : Script α ε) : Operation (Reply α ε) := fun begun =>
  r.runFrom script begun (r.policy.attempts - 1) 1 begun

end Retry

end Safeguard
