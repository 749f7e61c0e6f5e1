import Mathlib.Data.List.Induction
import Safeguard.Proofs.Call.Stage

/-!
# Retried calls among others

The journey of a protected, retried call.

* `RetriedCall.Course` says how far a call is that was let through, and `RetriedCall.turn_step`
  what an occurrence is to it: it goes on and does nothing to the breakers, or it settles as it
  would alone and its breaker records one outcome.
* `RetriedCall.Course.run` says that this holds after any occurrences, and
  `RetriedCall.Course.remaining_run` that something comes of a call only so often.
-/

namespace Safeguard

/-! ## Outcomes -/

namespace Breaker

variable {α : Type}

/-- Records the outcome of a call. -/
def record (b : Breaker) (now : Nat) (success : Bool) : Breaker × List Notice :=
  if success then b.succeed else b.fail now

theorem settle_ofReply (b : Breaker) (now : Nat) (reply : Reply α) :
    b.settle now (.ofReply reply) = b.record now reply.toBool := by
  cases reply <;> rfl

end Breaker

/-- How often something may still come of a call. -/
def Journey.remaining {α : Type} (s : Journey α) : Nat :=
  match s.result with
  | .pending c => c.remaining
  | .ended .. => 0

namespace RetriedCall

open Journey (Occurrence)

variable {α : Type}

/-- A protected call whose operation is retried. -/
def start (p : Protection) (r : Registry) (clock : Clock) (retry : Retry) : Journey α :=
  let (result, registry, notices) :=
    InFlight.start r clock p.dependency (p.policy r) none (some retry)
  { clock, registry, result, notices := Notice.atInstant clock.now notices }

/-! ## Calls that were let through -/

section Course

variable (name : String) (permit : Permit) (begun : Nat) (retry : Retry) (script : Script α)
  (alone : Run (Reply α)) (asked : List (Nat × Notice))

/-- Whether the last attempt of a run succeeded. -/
def lastSucceeded : Bool := (script (alone.invocations.length - 1)).reply.toBool

/-- The call ends as it would alone, and its breaker records one outcome. -/
structure Settled (s s' : Journey α) : Prop where
  onTime : s'.now = alone.finished
  result : s'.result = .ended (.ofReply alone.reply) alone.invocations
  recorded : ∃ b, s.registry.get? name = some b ∧
    s'.registry =
      s.registry.put name (b.record alone.finished (lastSucceeded script alone)).1 ∧
    s'.notices = asked ++ alone.notices ++
      Notice.atInstant alone.finished (b.record alone.finished (lastSucceeded script alone)).2

/-- How far a call is that was let through. -/
inductive Course (s : Journey α) : Prop
  | onItsWay {c : InFlight α} {done : List (Nat × Notice)} (pending : s.result = .pending c)
      (stage : c.Stage name permit begun retry script alone s.now done)
      (reported : s.notices = asked ++ done)
      (present : (s.registry.get? name).isSome = true)
  | ended {b : Breaker} (result : s.result = .ended (.ofReply alone.reply) alone.invocations)
      (reported : s.notices = asked ++ alone.notices ++
        Notice.atInstant alone.finished (b.record alone.finished (lastSucceeded script alone)).2)

/-- What an occurrence is to a call that is on its way: the call goes on and does nothing to the
breakers, or it settles. -/
inductive Turn (s : Journey α) (e : Occurrence) (s' : Journey α) : Prop
  | aside (course : Course name permit begun retry script alone asked s')
      (goesOn : s'.isOver = false) (registry : s'.registry = e.registry s.clock s.registry)
      (less : s'.remaining ≤ s.remaining - if e.isProceed then 1 else 0)
  | settled (settled : Settled name script alone asked s s')

variable {name permit begun retry script alone asked} {s s' : Journey α} {c : InFlight α}
  {done : List (Nat × Notice)}

theorem Settled.course (settled : Settled name script alone asked s s') :
    Course name permit begun retry script alone asked s' := by
  obtain ⟨b, -, -, reported⟩ := settled.recorded
  exact .ended settled.result reported

theorem Settled.isOver (settled : Settled name script alone asked s s') : s'.isOver = true := by
  rw [Journey.isOver, settled.result]

/-- Something comes of a call. -/
theorem turn_take (reply : alone.reply.toBool = lastSucceeded script alone)
    (pending : s.result = .pending c) (reported : s.notices = asked ++ done)
    (present : (s.registry.get? name).isSome = true) {t : Nat} (on_time : s.now ≤ t)
    (next : InFlight.Next name permit begun retry script alone t c
      (c.received (.ofScript script) t) done) {e : Occurrence} (quiet : e.isDeed = false) :
    Turn name permit begun retry script alone asked s e (s.take (.ofScript script) t c) := by
  have now : (s.clock.waitUntil t).now = t := Nat.max_eq_right on_time
  cases next with
  | @goesOn c'' notices poll stage less =>
    rw [← now] at stage
    simp only [Journey.take, poll]
    refine .aside (.onItsWay rfl stage ?_ present) rfl (e.registry_of_not_isDeed quiet _ _).symm ?_
    · rw [reported, List.append_assoc, now]
    · simp only [Journey.remaining, pending]
      split <;> omega
  | @ends notices finished reports poll =>
    obtain ⟨b, found⟩ := Option.isSome_iff_exists.1 present
    simp only [Journey.take, poll, Registry.settle, found, Breaker.settle_ofReply, reply]
    refine .settled ⟨now.trans finished, rfl, b, found, by rw [finished], ?_⟩
    rw [reported, reports, Notice.atInstant, List.map_append, List.append_assoc, List.append_assoc,
      List.append_assoc, finished]
    rfl

/-- What an occurrence is to a call that is on its way. -/
theorem turn_step (reply : alone.reply.toBool = lastSucceeded script alone)
    (pending : s.result = .pending c)
    (stage : c.Stage name permit begun retry script alone s.now done)
    (reported : s.notices = asked ++ done) (present : (s.registry.get? name).isSome = true)
    (e : Occurrence) :
    Turn name permit begun retry script alone asked s e (s.step (.ofScript script) e) := by
  obtain ⟨t, awaited, on_time, next⟩ := stage.next
  have ahead : s.upcoming? (.ofScript script) = some (t, c) := by
    simp only [Journey.upcoming?, pending, awaited, Option.map_some]
  -- what an occurrence leaves behind that only time or somebody else has a part in
  have unmoved {e : Occurrence} {s' : Journey α} (same : s'.result = s.result)
      (silent : s'.notices = s.notices) (breakers : s'.registry = e.registry s.clock s.registry)
      (still : (s'.registry.get? name).isSome = true) (waits : e.isProceed = false)
      (stage : c.Stage name permit begun retry script alone s'.now done) :
      Turn name permit begun retry script alone asked s e s' := by
    refine .aside (.onItsWay (same.trans pending) stage (silent.trans reported) still) ?_
      breakers ?_
    · rw [Journey.isOver, same, pending]
    · simp only [Journey.remaining, same, waits, Bool.false_eq_true, if_false, Nat.sub_zero,
        Nat.le_refl]
  cases e with
  | proceed =>
    rw [Journey.step, Journey.proceed, ahead]
    exact turn_take reply pending reported present on_time next rfl
  | poll =>
    rw [Journey.step, Journey.poll, pending]
    rcases Nat.lt_or_eq_of_le on_time with early | rfl
    · have same : s.clock.waitUntil s.now = s.clock := by
        simp only [Clock.waitUntil, Journey.now, Nat.max_self]
      simp only [Journey.take, stage.poll_before awaited early, same, Notice.atInstant,
        List.map_nil, List.append_nil]
      exact unmoved pending.symm rfl rfl present rfl stage
    · exact turn_take reply pending reported present (Nat.le_refl _) next rfl
  | wait d =>
    have le : max s.now (min (s.now + d) t) ≤ t := by omega
    rw [Journey.step, Journey.wait, ahead]
    exact unmoved rfl rfl rfl present rfl (stage.wait awaited le)
  | deed d =>
    rw [Journey.step]
    exact unmoved rfl rfl rfl (d.isSome_registry s.clock present) rfl stage

theorem Course.step (reply : alone.reply.toBool = lastSucceeded script alone)
    (course : Course name permit begun retry script alone asked s) (e : Occurrence) :
    Course name permit begun retry script alone asked (s.step (.ofScript script) e) := by
  cases course with
  | onItsWay pending stage reported present =>
    cases turn_step reply pending stage reported present e with
    | aside course => exact course
    | settled settled => exact settled.course
  | ended result reported =>
    obtain ⟨same, silent, -⟩ := Journey.kept_of_isOver _ (by rw [Journey.isOver, result]) e
    exact .ended (same.trans result) (silent.trans reported)

theorem Course.run (reply : alone.reply.toBool = lastSucceeded script alone)
    (course : Course name permit begun retry script alone asked s) (es : List Occurrence) :
    Course name permit begun retry script alone asked (s.run (.ofScript script) es) :=
  Journey.run_induction _ s course (fun _ e course => course.step reply e) es

/-! ### Every call ends -/

theorem Course.remaining_step (reply : alone.reply.toBool = lastSucceeded script alone)
    (course : Course name permit begun retry script alone asked s) (e : Occurrence) :
    (s.step (.ofScript script) e).remaining ≤ s.remaining - if e.isProceed then 1 else 0 := by
  cases course with
  | onItsWay pending stage reported present =>
    cases turn_step reply pending stage reported present e with
    | aside _ _ _ less => exact less
    | settled settled =>
      rw [Journey.remaining, settled.result]
      exact Nat.zero_le _
  | ended result reported =>
    obtain ⟨same, -, -⟩ := Journey.kept_of_isOver _ (by rw [Journey.isOver, result]) e
    rw [Journey.remaining, same, result]
    exact Nat.zero_le _

theorem Course.remaining_run (reply : alone.reply.toBool = lastSucceeded script alone)
    (course : Course name permit begun retry script alone asked s) (es : List Occurrence) :
    (s.run (.ofScript script) es).remaining ≤ s.remaining - es.countP Occurrence.isProceed := by
  induction es using List.reverseRecOn with
  | nil => exact Nat.le_refl _
  | append_singleton es e ih =>
    have less := (course.run reply es).remaining_step reply e
    rw [Journey.run_concat, List.countP_append, List.countP_singleton]
    omega

theorem Course.isOver_of_remaining (course : Course name permit begun retry script alone asked s)
    (none : s.remaining = 0) : s.isOver = true := by
  cases course with
  | onItsWay pending stage =>
    rw [Journey.remaining, pending] at none
    exact absurd none (Nat.ne_of_gt stage.remaining_pos)
  | ended result => rw [Journey.isOver, result]

end Course

/-! ### How a call begins -/

section Start

variable (p : Protection) (r : Registry) (clock : Clock) (retry : Retry)

theorem start_of_rejected {retryIn : Option Nat}
    (turned_away : (r.ask clock p.dependency (p.policy r)).1 = .rejected retryIn) :
    start (α := α) p r clock retry =
      { clock, registry := (r.ask clock p.dependency (p.policy r)).2.1
        result := .ended (.error (.rejected p.dependency retryIn)) []
        notices :=
          Notice.atInstant clock.now (r.ask clock p.dependency (p.policy r)).2.2 } := by
  simp only [start, InFlight.start_of_rejected r clock p.dependency _ none _ turned_away]

theorem start_of_admitted {permit : Permit}
    (let_through : (r.ask clock p.dependency (p.policy r)).1 = .admitted permit) :
    start (α := α) p r clock retry =
      { clock, registry := (r.ask clock p.dependency (p.policy r)).2.1
        result := .pending (.admitted clock p.dependency none (some retry) permit)
        notices :=
          Notice.atInstant clock.now (r.ask clock p.dependency (p.policy r)).2.2 } := by
  have polled (registry : Registry) :
      (InFlight.admitted (α := α) clock p.dependency none (some retry) permit).poll registry
          clock.now =
        (.pending (.admitted clock p.dependency none (some retry) permit), registry, []) :=
    InFlight.poll_attempt (retry.policy.attempts - 1) 1 registry
  simp only [start, InFlight.start_of_admitted r clock p.dependency _ none _ let_through, polled,
    List.append_nil]

/-- A call that is let through is on its way. -/
theorem course_start (script : Script α) {permit : Permit}
    (let_through : (r.ask clock p.dependency (p.policy r)).1 = .admitted permit) :
    Course p.dependency permit clock.now retry script (retry.run script clock.now)
        (Notice.atInstant clock.now (r.ask clock p.dependency (p.policy r)).2.2)
        (start p r clock retry) ∧
      (start (α := α) p r clock retry).isOver = false ∧
      (start (α := α) p r clock retry).registry =
        (r.ask clock p.dependency (p.policy r)).2.1 ∧
      (start (α := α) p r clock retry).remaining < 2 * retry.policy.attempts := by
  have stage : (InFlight.admitted clock p.dependency none (some retry) permit).Stage p.dependency
      permit clock.now retry script (retry.run script clock.now) clock.now [] := by
    change (InFlight.retried p.dependency permit clock.now retry (retry.start clock.now)
      ([] ++ [clock.now]) []).Stage _ _ _ _ _ _ _ _
    exact .attempt rfl (Outcome.le_finish _ _)
  have present : ((r.ask clock p.dependency (p.policy r)).2.1.get? p.dependency).isSome := by
    rw [Registry.get?_ask_self, Option.isSome_some]
  rw [start_of_admitted p r clock retry let_through]
  refine ⟨.onItsWay rfl stage (List.append_nil _).symm present, rfl, rfl, ?_⟩
  have attempts : 1 ≤ retry.policy.attempts := Nat.le_max_right _ _
  change 2 * (retry.policy.attempts - 1) + 1 < 2 * retry.policy.attempts
  omega

theorem toBool_reply_run (script : Script α) (begun : Nat) :
    (retry.run script begun).reply.toBool = lastSucceeded script (retry.run script begun) := by
  rw [lastSucceeded, ← retry.reply_run script begun]

end Start

end RetriedCall

end Safeguard
