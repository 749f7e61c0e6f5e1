import Safeguard.Retry.Run

/-!
# Retries on their way

A `Sequence` is a retried operation that is not over: an attempt waits for its reply, or the next
one waits for its time. Nothing happens to it except when it is polled. A poll takes the replies
that have come in, and goes on until the sequence is over or has to wait: for a reply, or for the
end of a pause. An attempt that follows a pause begins at the poll that finds the pause over.
-/

namespace Safeguard

/-- A retried operation that is not over. -/
structure Sequence where
  begun : Nat
  /-- The number of the attempt that is under way, or comes after the pause. -/
  attempt : Nat
  /-- A bound on the attempts after that one. -/
  left : Nat
  /-- When the pause is over; none while an attempt is under way. -/
  resumeAt : Option Nat := none
  deriving DecidableEq

/-- What a poll has found: the replies that it did not use, the attempts that it began, and what
it reported. -/
structure Polled (ρ α : Type) where
  result : ρ
  replies : List (Reply α)
  invocations : List Nat := []
  notices : List Notice := []

namespace Polled

variable {ρ σ α : Type}

/-- What a poll found after it had begun attempts and reported notices. -/
def after (invocations : List Nat) (notices : List Notice) (p : Polled ρ α) : Polled ρ α :=
  { p with invocations := invocations ++ p.invocations, notices := notices ++ p.notices }

/-- The poll with its result changed. -/
def map (f : ρ → σ) (p : Polled ρ α) : Polled σ α := { p with result := f p.result }

end Polled

/-- A sequence after a poll: over, or still on its way. -/
inductive Sequence.Result (α : Type)
  | over (reply : Reply α)
  | waiting (sequence : Sequence)

namespace Retry

variable {α : Type}

/-- Starts a sequence, whose first attempt is under way. -/
def start (r : Retry) (now : Nat) : Sequence where
  begun := now
  attempt := 1
  left := r.policy.attempts - 1

/-- Goes on with an attempt under way. -/
def pollAttempt (r : Retry) (begun now : Nat) :
    (left attempt : Nat) → List (Reply α) → Polled (Sequence.Result α) α
  | left, attempt, [] => { result := .waiting { begun, attempt, left }, replies := [] }
  | _, attempt, .ok value :: replies =>
    { result := .over (.ok value), replies, notices := successNotices attempt }
  | left, attempt, .error error :: replies =>
    let verdict := r.verdict attempt (now - begun) error
    let notices := r.failureNotices attempt error verdict
    match verdict, left with
    | .again delay, left + 1 =>
      if due now delay ≤ now then
        (r.pollAttempt begun now left (attempt + 1) replies).after [now] notices
      else
        { result :=
            .waiting { begun, attempt := attempt + 1, left, resumeAt := some (due now delay) }
          replies, notices }
    | _, _ => { result := .over (.error error), replies, notices }

/-- Goes on with a sequence. -/
def poll (r : Retry) (s : Sequence) (now : Nat) (replies : List (Reply α)) :
    Polled (Sequence.Result α) α :=
  match s.resumeAt with
  | none => r.pollAttempt s.begun now s.left s.attempt replies
  | some resumeAt =>
    if resumeAt ≤ now then
      (r.pollAttempt s.begun now s.left s.attempt replies).after [now] []
    else { result := .waiting s, replies }

end Retry

end Safeguard
