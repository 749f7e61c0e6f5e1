import Safeguard.Notice
import Safeguard.Operation.Script

/-!
# Runs of operations

A `Run` is all that can be told of an operation when it is over: what came of it and when, when it
was invoked, and what was reported on the way. `Outcome.run` is the run of a single invocation,
and `Run.within` gives a run up at a deadline. The operation is asked before the timer of the
deadline, so a run that ends at its deadline has ended in time.
-/

namespace Safeguard

/-- An operation that has been run. -/
structure Run (ρ : Type) where
  reply : ρ
  finished : Nat
  /-- When the operation was invoked. -/
  invocations : List Nat
  /-- What was reported, and when. -/
  notices : List (Nat × Notice) := []

/-- An operation, given the instant at which it is run. -/
abbrev Operation (ρ : Type) := Nat → Run ρ

/-- Notices of one instant. -/
def Notice.atInstant (t : Nat) (notices : List Notice) : List (Nat × Notice) :=
  notices.map fun n => (t, n)

namespace Run

variable {ρ σ : Type}

/-- The run with what came of it changed. -/
def map (f : ρ → σ) (r : Run ρ) : Run σ := { r with reply := f r.reply }

/-- What was reported, in order. -/
def reports (r : Run ρ) : List Notice := r.notices.map Prod.snd

/-- What a run has done by a deadline; no reply if it goes on. -/
def within (deadline : Nat) (r : Run ρ) : Run (Option ρ) :=
  if r.finished ≤ deadline then r.map some
  else
    { reply := none
      finished := deadline
      invocations := r.invocations.filter (· ≤ deadline)
      notices := r.notices.filter fun n => n.1 ≤ deadline }

theorem within_of_finished_le {r : Run ρ} {deadline : Nat} (h : r.finished ≤ deadline) :
    r.within deadline = r.map some := by
  simp [within, h]

theorem finished_within (r : Run ρ) (deadline : Nat) :
    (r.within deadline).finished = min r.finished deadline := by
  unfold within
  split
  · rename_i h
    exact (Nat.min_eq_left h).symm
  · rename_i h
    exact (Nat.min_eq_right (Nat.le_of_lt (Nat.not_le.1 h))).symm

end Run

namespace Outcome

variable {α ε : Type}

/-- The run of a single invocation. -/
def run (o : Outcome α ε) : Operation (Reply α ε) := fun begun =>
  { reply := o.reply, finished := o.finish begun, invocations := [begun] }

end Outcome

end Safeguard
