import Safeguard.Time.Basic

/-!
# Operations

What guards calls knows little of an operation: each invocation takes a while and then succeeds or
fails. An `Outcome` is one invocation, and a `Script` all of them by their number. An invocation
ends when its time is over, to the nanosecond, unless it waits for a timer.
-/

namespace Safeguard

/-- The reply of an operation: its value or its error, which is a text unless said otherwise. -/
abbrev Reply (α : Type) (ε : Type := String) := Except ε α

/-- What one invocation does: it replies after a while. -/
structure Outcome (α : Type) (ε : Type := String) where
  delay : Nat := 0
  /-- Whether a timer ends it. -/
  timed : Bool := false
  reply : Reply α ε

namespace Outcome

variable {α β ε : Type}

/-- When an invocation that began at an instant replies. -/
def finish (o : Outcome α ε) (begun : Nat) : Nat :=
  if o.timed then due begun o.delay else begun + o.delay

/-- The outcome with its value changed. -/
def map (f : α → β) (o : Outcome α ε) : Outcome β ε := { o with reply := o.reply.map f }

/-- The outcome with its value put to a further test. -/
def bind (f : α → Reply β ε) (o : Outcome α ε) : Outcome β ε := { o with reply := o.reply.bind f }

theorem le_finish (o : Outcome α ε) (begun : Nat) : begun ≤ o.finish begun := by
  unfold finish
  split
  · exact Nat.le_trans (Nat.le_add_right begun o.delay) (le_due begun o.delay)
  · exact Nat.le_add_right begun o.delay

end Outcome

/-- What the invocations of an operation do, counted from 0. -/
abbrev Script (α : Type) (ε : Type := String) := Nat → Outcome α ε

namespace Script

variable {α ε : Type}

/-- The script of a list of outcomes; the last one is repeated, and `default` stands for an empty
list. -/
def ofList (default : Outcome α ε) (outcomes : List (Outcome α ε)) : Script α ε := fun n =>
  (outcomes[min n (outcomes.length - 1)]?).getD default

/-- The script after `n` invocations. -/
def after (s : Script α ε) (n : Nat) : Script α ε := fun k => s (n + k)

end Script

end Safeguard
