import Mathlib.Data.List.Induction
import Safeguard.Call.InFlight
import Safeguard.Proofs.Health.Scene

/-!
# Calls among others

A `Journey` is a call through a breaker with the clock and the breakers around it. The call goes on
when something comes of it: its operation replies, a pause between two attempts is over, or its
limit passes (`InFlight.awaited?`). What the operation does is told by `Replies`, and it may never
reply. In between the call may be polled, time passes, and other things are done to the breakers,
that of the call included: calls arrive, settle and are dropped, breakers are reset and forced open.

`Journey.step_of_isOver` is all that an occurrence can be to a call that is over, and
`Journey.run_of_isOver` says that such a call has nothing to do with its operation any more.
-/

namespace Safeguard

/-! ## What a call waits for -/

/-- What the invocations of an operation do, counted from 0; none for one that never replies. -/
abbrev Replies (α : Type) := Nat → Option (Outcome α)

namespace Replies

variable {α : Type}

/-- The replies of a script. -/
def ofScript (script : Script α) : Replies α := fun n => some (script n)

/-- The replies of an operation that is invoked once. -/
def once (operation : Option (Outcome α)) : Replies α := fun _ => operation

end Replies

namespace InFlight

variable {α : Type} (replies : Replies α) (c : InFlight α)

/-- The invocation that is under way, counted from 0; none during a pause. -/
def underWay? : Option Nat :=
  match c.retries with
  | none => some 0
  | some (_, sequence) =>
    match sequence.resumeAt with
    | none => some (sequence.attempt - 1)
    | some _ => none

/-- When the pause is over, if there is one. -/
def resumeAt? : Option Nat := c.retries.bind fun retries => retries.2.resumeAt

/-- The reply of the invocation that is under way, and when it comes. -/
def answer? : Option (Nat × Reply α) :=
  (c.underWay?.bind replies).bind fun outcome =>
    c.invocations.getLast?.map fun begun => (outcome.finish begun, outcome.reply)

/-- When something comes of the call. -/
def awaited? : Option Nat :=
  ((c.answer? replies).map Prod.fst).merge min
    (c.resumeAt?.merge min (c.limit.map (due c.begun)))

/-- The call with the reply of its operation, if that has come in by an instant. -/
def received (t : Nat) : InFlight α :=
  match (c.answer? replies).filter fun answer => answer.1 ≤ t with
  | some (_, reply) => c.finish reply
  | none => c

variable {replies c} {t : Nat}

theorem received_of_late (late : ∀ answer, c.answer? replies = some answer → t < answer.1) :
    c.received replies t = c := by
  have nothing : ((c.answer? replies).filter fun answer => answer.1 ≤ t) = none := by
    rw [Option.filter_eq_none_iff]
    intro answer answers
    rw [decide_eq_true_eq, Nat.not_le]
    exact late answer answers
  rw [received, nothing]

theorem received_of_come {come : Nat} {reply : Reply α}
    (answers : c.answer? replies = some (come, reply)) (le : come ≤ t) :
    c.received replies t = c.finish reply := by
  rw [received, answers, Option.filter_some, if_pos (decide_eq_true le)]

end InFlight

/-! ## The journey of a call -/

/-- A call with the clock and the breakers around it. -/
structure Journey (α : Type) where
  clock : Clock
  registry : Registry
  result : InFlight.Result α
  /-- What the call has reported, and when. -/
  notices : List (Nat × Notice)

namespace Journey

variable {α : Type}

/-- What comes next. -/
inductive Occurrence
  /-- Something comes of the call. -/
  | proceed
  /-- The call is polled in between. -/
  | poll
  /-- Time passes. -/
  | wait (d : Nat)
  /-- Something else is done. -/
  | deed (d : Deed)

namespace Occurrence

/-- Whether something comes of the call. -/
def isProceed : Occurrence → Bool
  | proceed => true
  | _ => false

/-- Whether something else is done. -/
def isDeed : Occurrence → Bool
  | deed _ => true
  | _ => false

/-- The breakers after what is done besides the call. -/
def registry (clock : Clock) (r : Registry) : Occurrence → Registry
  | deed d => d.registry clock r
  | _ => r

theorem registry_of_not_isDeed {e : Occurrence} (h : e.isDeed = false) (clock : Clock)
    (r : Registry) : e.registry clock r = r := by
  cases e with
  | deed => cases h
  | _ => rfl

end Occurrence

/-- The instant of the call. -/
def now (s : Journey α) : Nat := s.clock.now

/-- Whether the call has come to its end. -/
def isOver (s : Journey α) : Bool :=
  match s.result with
  | .pending _ => false
  | .ended .. => true

section Step

variable (replies : Replies α) (s : Journey α)

/-- The call, which is on its way, is polled at an instant. -/
def take (t : Nat) (c : InFlight α) : Journey α :=
  let (result, registry, notices) := (c.received replies t).poll s.registry t
  { clock := s.clock.waitUntil t, registry, result
    notices := s.notices ++ Notice.atInstant t notices }

/-- When something comes of the call, if it is not over. -/
def upcoming? : Option (Nat × InFlight α) :=
  match s.result with
  | .pending c => (c.awaited? replies).map fun t => (t, c)
  | .ended .. => none

/-- Something comes of the call, if it is not over. -/
def proceed : Journey α :=
  match s.upcoming? replies with
  | some (t, c) => s.take replies t c
  | none => s

/-- The call is polled, if it is not over. -/
def poll : Journey α :=
  match s.result with
  | .pending c => s.take replies s.now c
  | .ended .. => s

/-- Time passes, until something comes of the call. -/
def wait (d : Nat) : Journey α :=
  match s.upcoming? replies with
  | some (t, _) => { s with clock := s.clock.waitUntil (min (s.now + d) t) }
  | none => { s with clock := s.clock.waitUntil (s.now + d) }

/-- A deed is done. -/
def perform (d : Deed) : Journey α := { s with registry := d.registry s.clock s.registry }

/-- What comes of an occurrence. -/
def step : Occurrence → Journey α
  | .proceed => s.proceed replies
  | .poll => s.poll replies
  | .wait d => s.wait replies d
  | .deed d => s.perform d

/-- What comes of occurrences, one after the other. -/
def run (es : List Occurrence) : Journey α := es.foldl (step replies) s

/-- The call settles at an instant. -/
def settled (name : String) (t : Nat) (reply : CallReply α) (invocations : List Nat) :
    Journey α where
  clock := s.clock.waitUntil t
  registry := (s.registry.settle t name reply).1
  result := .ended reply invocations
  notices := s.notices ++ Notice.atInstant t (s.registry.settle t name reply).2

theorem run_concat (es : List Occurrence) (e : Occurrence) :
    s.run replies (es ++ [e]) = (s.run replies es).step replies e := List.foldl_append

/-- What holds of a call, and goes on to hold whatever occurs, holds of every run. -/
theorem run_induction {P : Journey α → Prop} (begins : P s)
    (goesOn : ∀ s e, P s → P (s.step replies e)) (es : List Occurrence) :
    P (s.run replies es) := by
  induction es using List.reverseRecOn with
  | nil => exact begins
  | append_singleton es e ih =>
    rw [run_concat]
    exact goesOn _ e ih

end Step

/-! ## Calls that are over -/

variable {s : Journey α}

/-- What an occurrence is to a call that is over. Its operation has no part in it. -/
theorem step_of_isOver (replies : Replies α) (is_over : s.isOver = true) (e : Occurrence) :
    s.step replies e =
      match e with
      | .proceed | .poll => s
      | .wait d => { s with clock := s.clock.waitUntil (s.now + d) }
      | .deed d => s.perform d := by
  obtain ⟨clock, registry, result, notices⟩ := s
  cases result with
  | pending c => cases is_over
  | ended reply invocations => cases e <;> rfl

/-- A call that is over stays as it is, and leaves the breakers to others. -/
theorem kept_of_isOver (replies : Replies α) (is_over : s.isOver = true) (e : Occurrence) :
    (s.step replies e).result = s.result ∧ (s.step replies e).notices = s.notices ∧
      (s.step replies e).registry = e.registry s.clock s.registry := by
  rw [step_of_isOver replies is_over e]
  cases e <;> exact ⟨rfl, rfl, rfl⟩

/-- A call that is over has nothing to do with its operation. -/
theorem run_of_isOver (is_over : s.isOver = true) (replies replies' : Replies α)
    (es : List Occurrence) :
    s.run replies es = s.run replies' es ∧ (s.run replies es).result = s.result ∧
      (s.run replies es).notices = s.notices := by
  induction es using List.reverseRecOn with
  | nil => exact ⟨rfl, rfl, rfl⟩
  | append_singleton es e ih =>
    obtain ⟨same, result, notices⟩ := ih
    have still : (s.run replies es).isOver = true := by
      rw [isOver, result]
      exact is_over
    obtain ⟨kept, silent, -⟩ := kept_of_isOver replies still e
    rw [run_concat, run_concat, ← same, kept, silent, step_of_isOver replies still e,
      step_of_isOver replies' still e]
    exact ⟨rfl, result, notices⟩

end Journey

end Safeguard
