import Safeguard.Protection
import Safeguard.Retry.Sequence

/-!
# Calls on their way

An `InFlight` call has been let through and has not settled: its operation, retried or not, waits
for replies. Nothing happens to it except when it is polled. A poll takes the replies that have
come in before it looks at the limit, so that a reply in time beats a limit that has passed. A
call that is dropped gives its permit back.
-/

namespace Safeguard

/-- A call on its way. -/
structure InFlight (α : Type) where
  dependency : String
  permit : Permit
  begun : Nat
  limit : Option Nat
  /-- The retries of the operation and how far they are; none for a single attempt. -/
  retries : Option (Retry × Sequence)
  /-- Replies that have come in and have not been used. -/
  replies : List (Reply α) := []
  /-- When the operation was invoked. -/
  invocations : List Nat

/-- What a poll finds. -/
inductive InFlight.Result (α : Type)
  | pending (call : InFlight α)
  | ended (reply : CallReply α) (invocations : List Nat)

namespace InFlight

variable {ρ α : Type}

/-- The call with one more reply. -/
def finish (c : InFlight α) (reply : Reply α) : InFlight α :=
  { c with replies := c.replies ++ [reply] }

/-- What has come of the operation: its reply, or what the call is now. -/
def advance (c : InFlight α) (now : Nat) : Polled (Reply α ⊕ InFlight α) α :=
  match c.retries with
  | none =>
    match c.replies with
    | reply :: replies => { result := .inl reply, replies }
    | [] => { result := .inr c, replies := [] }
  | some (retry, sequence) =>
    let polled := retry.poll sequence now c.replies
    polled.map fun
      | .over reply => .inl reply
      | .waiting sequence =>
        .inr
          { c with
            retries := some (retry, sequence)
            replies := polled.replies
            invocations := c.invocations ++ polled.invocations }

/-- The limit, if it has passed. -/
def overdue? (c : InFlight α) (now : Nat) : Option Nat :=
  c.limit.filter fun limit => due c.begun limit ≤ now

/-- Ends a call. -/
def conclude (c : InFlight α) (r : Registry) (now : Nat) (polled : Polled ρ α)
    (reply : CallReply α) : Result α × Registry × List Notice :=
  let (r, ending) := r.settle now c.dependency reply
  (.ended reply (c.invocations ++ polled.invocations), r, polled.notices ++ ending)

/-- Goes on with a call. -/
def poll (c : InFlight α) (r : Registry) (now : Nat) : Result α × Registry × List Notice :=
  let polled := c.advance now
  match polled.result with
  | .inl reply => c.conclude r now polled (.ofReply reply)
  | .inr call =>
    match c.overdue? now with
    | some limit => c.conclude r now polled (.error (.timedOut c.dependency limit))
    | none => (.pending call, r, polled.notices)

/-- Starts a call through the breaker of a name, and polls it once. -/
def start (r : Registry) (clock : Clock) (name : String) (policy : Option BreakerPolicy)
    (limit : Option Nat) (retry : Option Retry) : Result α × Registry × List Notice :=
  match r.ask clock name policy with
  | (.rejected retryIn, r, notices) => (.ended (.error (.rejected name retryIn)) [], r, notices)
  | (.admitted permit, r, notices) =>
    let call : InFlight α :=
      { dependency := name, permit, begun := clock.now, limit
        retries := retry.map fun retry => (retry, retry.start clock.now)
        invocations := [clock.now] }
    let (result, r, further) := call.poll r clock.now
    (result, r, notices ++ further)

/-- Gives a call up. -/
def drop (c : InFlight α) (r : Registry) : Registry := r.abandon c.dependency c.permit

end InFlight

end Safeguard
