import Safeguard.Breaker.Basic
import Safeguard.Call.Error
import Safeguard.Operation.Run

/-!
# Calls through a breaker

A call asks the breaker to be let through, runs its operation, and settles: the breaker learns
whether the operation succeeded. A call may have a limit, after which the operation is given up
and the call fails. `Breaker.settle` is the end of a call for the breaker, and `Breaker.perform`
is a whole call that no other operation on the breaker comes between.
-/

namespace Safeguard

/-- What came of a call. -/
abbrev CallReply (α : Type) := Except (CallError String) α

/-- A reply of an operation as the reply of the call. -/
def CallReply.ofReply {α : Type} : Reply α → CallReply α
  | .ok value => .ok value
  | .error error => .error (.failed error)

namespace Breaker

variable {α : Type}

/-- Ends a call. -/
def settle (b : Breaker) (now : Nat) (reply : CallReply α) : Breaker × List Notice :=
  match reply with
  | .ok _ => b.succeed
  | .error (.timedOut _ limit) =>
    let (b', notices) := b.fail now
    (b', .log (.callTimedOut b.name limit) :: notices)
  | .error _ => b.fail now

/-- The run of an operation as a call: it is given up at the limit, if there is one. -/
def limited (name : String) (begun : Nat) (limit : Option Nat) (run : Run (Reply α)) :
    Run (CallReply α) :=
  match limit with
  | none => run.map .ofReply
  | some limit =>
    (run.within (due begun limit)).map fun
      | some reply => .ofReply reply
      | none => .error (.timedOut name limit)

/-- A call that is rejected. -/
def rejection (name : String) (now : Nat) (retryIn : Option Nat) (notices : List Notice) :
    Run (CallReply α) where
  reply := .error (.rejected name retryIn)
  finished := now
  invocations := []
  notices := Notice.atInstant now notices

/-- A whole call. -/
def perform (b : Breaker) (now : Nat) (limit : Option Nat) (operation : Operation (Reply α)) :
    Run (CallReply α) × Breaker :=
  match b.ask now with
  | (.rejected retryIn, b, notices) => (rejection b.name now retryIn notices, b)
  | (.admitted _, b, notices) =>
    let run := limited b.name now limit (operation now)
    let (b, ending) := b.settle run.finished run.reply
    ({ run with
        notices :=
          Notice.atInstant now notices ++ run.notices ++ Notice.atInstant run.finished ending },
      b)

/-- A call that is turned away does not run its operation. -/
theorem perform_of_rejected {b : Breaker} {now : Nat} {retryIn : Option Nat}
    (h : (b.ask now).1 = .rejected retryIn) (limit : Option Nat)
    (operation : Operation (Reply α)) :
    b.perform now limit operation =
      (rejection b.name now retryIn (b.ask now).2.2, (b.ask now).2.1) := by
  rcases eq : b.ask now with ⟨admission, b', notices⟩
  have name : b'.name = b.name := by
    have guard := b.sameGuard_ask now
    rw [eq] at guard
    exact guard.1
  rw [eq] at h
  cases h
  simp only [perform, eq, name]

theorem sameGuard_settle (b : Breaker) (now : Nat) (reply : CallReply α) :
    SameGuard (b.settle now reply).1 b := by
  unfold settle
  split
  · exact sameGuard_succeed b
  · exact sameGuard_fail b now
  · exact sameGuard_fail b now

/-- A call leaves the name and the policy of its breaker alone. -/
theorem sameGuard_perform (b : Breaker) (now : Nat) (limit : Option Nat)
    (operation : Operation (Reply α)) : SameGuard (b.perform now limit operation).2 b := by
  unfold perform
  have ask := sameGuard_ask b now
  split
  · rename_i h
    rw [h] at ask
    exact ask
  · rename_i h
    rw [h] at ask
    exact (sameGuard_settle _ _ _).trans ask

end Breaker

end Safeguard
