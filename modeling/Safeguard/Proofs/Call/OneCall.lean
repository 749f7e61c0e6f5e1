import Safeguard.Proofs.Breaker.Reports
import Safeguard.Proofs.Call.RetriedCall
import Safeguard.Proofs.Notice.Dated

/-!
# A retried call is one call

What comes of a protected call whose operation is retried, whatever else happens to its breaker
meanwhile (`RetriedCall.retries_are_one_call`). A call that is turned away invokes nothing and
announces no retry (`RetriedCall.TurnedAway`). A call that is let through does what `Retry.run` does
alone, even if its breaker opens meanwhile; until its end it leaves the breakers alone, and then its
breaker records one outcome, that of the last attempt (`RetriedCall.LetThrough`). If nothing else
happens, the call is `Protection.call` (`RetriedCall.run_undisturbed`).
-/

namespace Safeguard

/-! ## What calls and retries tell -/

theorem Event.retries_ofChange (dependency : String) (before after : CircuitState) :
    (ofChange dependency before after).filterMap retry? = [] := by
  unfold ofChange
  split <;> rfl

/-- A call that arrives is neither an outcome nor a retry. -/
theorem Registry.told_ask (r : Registry) (clock : Clock) (name : String)
    (policy : Option BreakerPolicy) (t : Nat) :
    Notice.told Event.ending? (Notice.atInstant t (r.ask clock name policy).2.2) = [] ∧
      Notice.told Event.retry? (Notice.atInstant t (r.ask clock name policy).2.2) = [] := by
  simp only [Notice.told_atInstant, events_ask, Breaker.events_ask, List.filterMap_append,
    Event.endings_ofChange, Event.retries_ofChange]
  constructor <;> split <;> rfl

theorem Breaker.events_record (b : Breaker) (now : Nat) (success : Bool) :
    Notice.events (b.record now success).2 =
      .callCompleted b.name success ::
        Event.ofChange b.name b.circuit.state (b.record now success).1.circuit.state := by
  cases success with
  | true => exact events_succeed b
  | false => exact events_fail b now

/-- What an outcome is told as. -/
theorem Breaker.told_record (b : Breaker) (now : Nat) (success : Bool) :
    Notice.told Event.ending? (Notice.atInstant now (b.record now success).2) = [(now, success)] ∧
      Notice.told Event.retry? (Notice.atInstant now (b.record now success).2) = [] := by
  simp only [Notice.told_atInstant, Breaker.events_record, List.filterMap_cons,
    Event.endings_ofChange, Event.retries_ofChange, Event.ending?, Event.retry?, List.map_cons,
    List.map_nil, and_self]

namespace Retry

variable {α : Type} (r : Retry)

theorem endings_successNotices (attempt : Nat) :
    (Notice.events (successNotices attempt)).filterMap Event.ending? = [] := by
  unfold successNotices
  split <;> rfl

theorem endings_failureNotices (attempt : Nat) (error : String) (verdict : Verdict) :
    (Notice.events (r.failureNotices attempt error verdict)).filterMap Event.ending? = [] := by
  cases verdict <;> rfl

/-- Retries alone record no outcome. -/
theorem told_runFrom (script : Script α) (begun left attempt now : Nat) :
    Notice.told Event.ending? (r.runFrom script begun left attempt now).notices = [] := by
  induction left using Nat.strong_induction_on generalizing attempt now with
  | _ left ih =>
    cases reply : (script (attempt - 1)).reply with
    | ok value =>
      rw [r.runFrom_of_ok begun left attempt now reply, Notice.told_atInstant,
        endings_successNotices, List.map_nil]
    | error error =>
      by_cases last : left = 0 ∨ ∀ delay,
          r.verdict attempt ((script (attempt - 1)).finish now - begun) error ≠ .again delay
      · rw [r.runFrom_of_last reply last, lastAttempt, Notice.told_atInstant,
          endings_failureNotices, List.map_nil]
      · push Not at last
        obtain ⟨more, delay, again⟩ := last
        obtain ⟨left, rfl⟩ := Nat.exists_eq_succ_of_ne_zero more
        rw [r.runFrom_of_again reply again, followed, Notice.told_append,
          Notice.told_atInstant, endings_failureNotices, List.map_nil, List.nil_append]
        exact ih left (Nat.lt_succ_self left) _ _

end Retry

/-! ## What comes of a call -/

namespace Journey

variable {α : Type} (s : Journey α)

/-- The retries that have been announced, and when. -/
def retries : List (Nat × Nat × Nat × String) := Notice.told Event.retry? s.notices

/-- The outcomes that have been recorded for the call, and when. -/
def outcomes : List (Nat × Bool) := Notice.told Event.ending? s.notices

end Journey

namespace RetriedCall

open Journey (Occurrence)

variable {α : Type}

/-- A call that was turned away: its operation was never invoked, no retry was announced, and the
breakers are left to others. -/
structure TurnedAway (script : Script α) (name : String) (retryIn : Option Nat)
    (asked : List (Nat × Notice)) (s : Journey α) : Prop where
  result : s.result = .ended (.error (.rejected name retryIn)) []
  reported : s.notices = asked
  retries : s.retries = []
  outcomes : s.outcomes = []
  aside (e : Occurrence) : (s.step (.ofScript script) e).registry = e.registry s.clock s.registry

/-- A call that was let through. Until its end it has done a part of what it does alone; at its end
it has done all of it and recorded one outcome; the only step that touches the breakers is the one
by which it settles. -/
structure LetThrough (script : Script α) (name : String) (alone : Run (Reply α))
    (asked : List (Nat × Notice)) (s : Journey α) : Prop where
  onItsWay {c : InFlight α} (pending : s.result = .pending c) :
    c.invocations <+: alone.invocations ∧
      s.retries <+: Notice.told Event.retry? alone.notices ∧ s.outcomes = [] ∧
      ∃ done, done <+: alone.notices ∧ s.notices = asked ++ done
  atEnd (is_over : s.isOver = true) :
    s.result = .ended (.ofReply alone.reply) alone.invocations ∧
      s.retries = Notice.told Event.retry? alone.notices ∧
      s.outcomes = [(alone.finished, lastSucceeded script alone)] ∧
      ∃ ending, s.notices = asked ++ alone.notices ++ Notice.atInstant alone.finished ending
  stays (is_over : s.isOver = true) (e : Occurrence) : (s.step (.ofScript script) e).isOver = true
  aside (e : Occurrence) (unsettled : s.isOver = (s.step (.ofScript script) e).isOver) :
    (s.step (.ofScript script) e).registry = e.registry s.clock s.registry
  settles (e : Occurrence) (pending : s.isOver = false)
    (is_over : (s.step (.ofScript script) e).isOver = true) :
    Settled name script alone asked s (s.step (.ofScript script) e)

theorem turnedAway_run {script : Script α} {name : String} {retryIn : Option Nat}
    {asked : List Notice} {t : Nat} {s : Journey α}
    (result : s.result = .ended (.error (.rejected name retryIn)) [])
    (reported : s.notices = Notice.atInstant t asked)
    (endings : Notice.told Event.ending? (Notice.atInstant t asked) = [])
    (retries : Notice.told Event.retry? (Notice.atInstant t asked) = []) (es : List Occurrence) :
    TurnedAway script name retryIn (Notice.atInstant t asked) (s.run (.ofScript script) es) := by
  have begins : s.isOver = true := by rw [Journey.isOver, result]
  obtain ⟨-, kept⟩ := Journey.run_of_isOver begins (.ofScript script) (.ofScript script) es
  have is_over : (s.run (.ofScript script) es).isOver = true := by
    rw [Journey.isOver, kept.1, result]
  have told : (s.run (.ofScript script) es).notices = Notice.atInstant t asked :=
    kept.2.trans reported
  exact ⟨kept.1.trans result, told, by rw [Journey.retries, told, retries],
    by rw [Journey.outcomes, told, endings],
    fun e => (Journey.kept_of_isOver _ is_over e).2.2⟩

/-- A call that its breaker turns away when it comes. -/
theorem turnedAway_start (p : Protection) (r : Registry) (clock : Clock) (retry : Retry)
    (script : Script α) (es : List Occurrence) {retryIn : Option Nat}
    (rejected : (r.ask clock p.dependency (p.policy r)).1 = .rejected retryIn) :
    TurnedAway script p.dependency retryIn
      (Notice.atInstant clock.now (r.ask clock p.dependency (p.policy r)).2.2)
      ((start p r clock retry).run (.ofScript script) es) := by
  obtain ⟨endings, retries⟩ := r.told_ask clock p.dependency (p.policy r) clock.now
  rw [start_of_rejected p r clock retry rejected]
  exact turnedAway_run rfl rfl endings retries es

section LetThrough

variable {name : String} {permit : Permit} {begun : Nat} {retry : Retry} {script : Script α}
  {alone : Run (Reply α)} {asked : List (Nat × Notice)} {s : Journey α}

/-- How far a call is tells all that comes of it. -/
theorem Course.letThrough (reply : alone.reply.toBool = lastSucceeded script alone)
    (unrecorded : Notice.told Event.ending? alone.notices = [])
    (endings : Notice.told Event.ending? asked = [])
    (retries : Notice.told Event.retry? asked = [])
    (course : Course name permit begun retry script alone asked s) :
    LetThrough script name alone asked s := by
  cases course with
  | @onItsWay c done pending stage reported present =>
    have unfinished : s.isOver = false := by rw [Journey.isOver, pending]
    have turn := turn_step reply pending stage reported present
    obtain ⟨invoked, begins⟩ := stage.isPrefix
    refine ⟨fun {c'} pending' => ?_, fun is_over => ?_, fun is_over => ?_, fun e same => ?_,
      fun e _ is_over => ?_⟩
    · obtain rfl : c = c' := InFlight.Result.pending.inj (pending.symm.trans pending')
      have recorded := Notice.told_isPrefix Event.ending? begins
      refine ⟨invoked, ?_, ?_, done, begins, reported⟩
      · rw [Journey.retries, reported, Notice.told_append, retries, List.nil_append]
        exact Notice.told_isPrefix Event.retry? begins
      · rw [Journey.outcomes, reported, Notice.told_append, endings, List.nil_append]
        exact List.prefix_nil.1 (unrecorded ▸ recorded)
    · exact absurd (unfinished.symm.trans is_over) Bool.false_ne_true
    · exact absurd (unfinished.symm.trans is_over) Bool.false_ne_true
    · cases turn e with
      | aside _ _ registry _ => exact registry
      | settled settled =>
        exact absurd (unfinished.symm.trans (same.trans settled.isOver)) Bool.false_ne_true
    · cases turn e with
      | aside _ goesOn _ _ => exact absurd (goesOn.symm.trans is_over) Bool.false_ne_true
      | settled settled => exact settled
  | @ended b result reported =>
    have is_over : s.isOver = true := by rw [Journey.isOver, result]
    have after := Journey.kept_of_isOver (.ofScript script) is_over
    obtain ⟨outcome, silent⟩ := b.told_record alone.finished (lastSucceeded script alone)
    refine ⟨fun pending => ?_, fun _ => ⟨result, ?_, ?_, _, reported⟩, fun _ e => ?_,
      fun e _ => (after e).2.2, fun e pending => ?_⟩
    · exact absurd (result.symm.trans pending) (by simp)
    · rw [Journey.retries, reported, Notice.told_append, Notice.told_append, retries, silent,
        List.nil_append, List.append_nil]
    · rw [Journey.outcomes, reported, Notice.told_append, Notice.told_append, endings, unrecorded,
        outcome]
      rfl
    · rw [Journey.isOver, (after e).1, result]
    · exact absurd (is_over.symm.trans pending) Bool.false_ne_true.symm

end LetThrough

/-- A protected call whose operation is retried is one call to its breaker, whatever else happens
meanwhile. Its arrival asks the breaker. If it is turned away, nothing is invoked and no retry is
announced. If it is let through, it is over when something has come of it often enough, twice for
each attempt; it invokes its operation when `Retry.run` does, announces the same retries and has
the same reply; and it leaves the breakers alone until it settles, when its breaker records
whether the last attempt succeeded. -/
theorem retries_are_one_call (p : Protection) (r : Registry) (clock : Clock) (retry : Retry)
    (script : Script α) (es : List Occurrence) :
    let answer := r.ask clock p.dependency (p.policy r)
    let asked := Notice.atInstant clock.now answer.2.2
    let alone := retry.run script clock.now
    let begun := start p r clock retry
    begun.registry = answer.2.1 ∧
      match answer.1 with
      | .rejected retryIn =>
        TurnedAway script p.dependency retryIn asked (begun.run (.ofScript script) es)
      | .admitted _ =>
        LetThrough script p.dependency alone asked (begun.run (.ofScript script) es) ∧
          (2 * retry.policy.attempts ≤ es.countP Occurrence.isProceed →
            (begun.run (.ofScript script) es).isOver = true) := by
  intro answer asked alone begun
  cases admission : answer.1 with
  | rejected retryIn =>
    have begins := start_of_rejected (α := α) p r clock retry admission
    exact ⟨congrArg Journey.registry begins, turnedAway_start p r clock retry script es admission⟩
  | admitted permit =>
    obtain ⟨endings, retries⟩ := r.told_ask clock p.dependency (p.policy r) clock.now
    obtain ⟨course, -, registry, few⟩ := course_start p r clock retry script admission
    have reply := toBool_reply_run retry script clock.now
    have left := course.remaining_run reply es
    refine ⟨registry,
      (course.run reply es).letThrough reply (retry.told_runFrom ..) endings retries,
      fun many => (course.run reply es).isOver_of_remaining ?_⟩
    omega

/-- While a call waits before its second attempt its breaker is forced open and turns another call
away. The second attempt takes place and succeeds, and the breaker, still open, records that. A call
that comes then is turned away. -/
theorem retries_are_one_call_of_forced_open :
    let db : Protection := { dependency := "db" }
    let refused : Outcome Unit := { delay := 2000000, reply := .error "ECONNREFUSED" }
    let script : Script Unit := .ofList refused [refused, { reply := .ok () }]
    let retry : Retry := .ofPolicy { baseDelay := 100000000, jitter := false } fun _ => 0
    let es : List Occurrence :=
      [.proceed, .wait 1000000, .deed (.forceOpen "db"), .deed (.ask "db" none), .proceed, .poll,
        .proceed]
    let call := (start db {} { wallStart := 0 } retry).run (.ofScript script) es
    let next := (start db call.registry call.clock retry).run (.ofScript script) [.proceed]
    (call.result = .ended (.ok ()) [0, 102000000] ∧
        call.retries = [(2000000, 1, 100000000, "ECONNREFUSED")] ∧
        call.outcomes = [(102000000, true)] ∧
        ((call.registry.get? "db").map fun b => (b.circuit.state, b.circuit.successes)) =
          some (.opened, 1)) ∧
      next.result = .ended (.error (.rejected "db" (some 29901000000))) [] ∧
        next.outcomes = [] := by
  intro db refused script retry es call next
  obtain ⟨-, let_through, -⟩ := retries_are_one_call db {} { wallStart := 0 } retry script es
  have is_over : call.isOver = true := by decide +kernel
  obtain ⟨result, retries, outcomes, -⟩ := let_through.atEnd is_over
  have invocations : (retry.run script 0).invocations = [0, 102000000] := by decide +kernel
  have reply : (retry.run script 0).reply = .ok () := by decide +kernel
  have rejected : (call.registry.ask call.clock db.dependency (db.policy call.registry)).1 =
      .rejected (some 29901000000) := by decide +kernel
  have turned_away := turnedAway_start db call.registry call.clock retry script [.proceed] rejected
  refine ⟨⟨?_, retries.trans (by decide +kernel), outcomes.trans (by decide +kernel),
    by decide +kernel⟩, turned_away.result, turned_away.outcomes⟩
  rw [result, reply, invocations]
  rfl

/-! ## The whole call -/

section Undisturbed

variable {name : String} {permit : Permit} {begun : Nat} {retry : Retry} {script : Script α}
  {alone : Run (Reply α)} {asked : List (Nat × Notice)} {s : Journey α} {es : List Occurrence}

/-- Until its end a call leaves the breakers alone. -/
theorem Course.registry_run (reply : alone.reply.toBool = lastSucceeded script alone)
    (course : Course name permit begun retry script alone asked s)
    (undisturbed : ∀ e ∈ es, e.isDeed = false)
    (goesOn : (s.run (.ofScript script) es).isOver = false) :
    (s.run (.ofScript script) es).registry = s.registry := by
  induction es using List.reverseRecOn with
  | nil => rfl
  | append_singleton es e ih =>
    obtain ⟨others, this⟩ := List.forall_mem_append.1 undisturbed
    rw [Journey.run_concat] at goesOn ⊢
    cases course.run reply es with
    | ended result =>
      have is_over : (s.run (.ofScript script) es).isOver = true := by rw [Journey.isOver, result]
      rw [Journey.isOver, (Journey.kept_of_isOver (.ofScript script) is_over e).1] at goesOn
      exact absurd (is_over.symm.trans goesOn) Bool.false_ne_true.symm
    | onItsWay pending stage reported present =>
      cases turn_step reply pending stage reported present e with
      | settled settled => exact absurd (settled.isOver.symm.trans goesOn) Bool.false_ne_true.symm
      | aside _ _ registry _ =>
        rw [registry, e.registry_of_not_isDeed (this e List.mem_cons_self)]
        exact ih others (by rw [Journey.isOver, pending])

/-- At its end a call has settled, and nothing else has come of it. -/
theorem Course.settle_run (reply : alone.reply.toBool = lastSucceeded script alone)
    (course : Course name permit begun retry script alone asked s)
    (unfinished : s.isOver = false) (undisturbed : ∀ e ∈ es, e.isDeed = false)
    (is_over : (s.run (.ofScript script) es).isOver = true) :
    (s.run (.ofScript script) es).result = .ended (.ofReply alone.reply) alone.invocations ∧
      (s.run (.ofScript script) es).registry =
        (s.registry.settle alone.finished name (.ofReply alone.reply)).1 ∧
      (s.run (.ofScript script) es).notices = asked ++ alone.notices ++
        Notice.atInstant alone.finished
          (s.registry.settle alone.finished name (.ofReply alone.reply)).2 := by
  induction es using List.reverseRecOn with
  | nil => exact absurd (unfinished.symm.trans is_over) Bool.false_ne_true
  | append_singleton es e ih =>
    obtain ⟨others, this⟩ := List.forall_mem_append.1 undisturbed
    have quiet := e.registry_of_not_isDeed (this e List.mem_cons_self)
    rw [Journey.run_concat] at is_over ⊢
    cases course.run reply es with
    | ended result =>
      have before : (s.run (.ofScript script) es).isOver = true := by rw [Journey.isOver, result]
      obtain ⟨same, silent, registry⟩ := Journey.kept_of_isOver (.ofScript script) before e
      rw [same, silent, registry, quiet]
      exact ih others before
    | onItsWay pending stage reported present =>
      cases turn_step reply pending stage reported present e with
      | aside _ goesOn _ _ => exact absurd (goesOn.symm.trans is_over) Bool.false_ne_true
      | settled settled =>
        obtain ⟨b, found, registry, notices⟩ := settled.recorded
        have same := course.registry_run reply others (by rw [Journey.isOver, pending])
        rw [same] at found registry
        refine ⟨settled.result, ?_, ?_⟩
        · rw [registry, Registry.settle, found, ← reply, ← Breaker.settle_ofReply]
        · rw [notices, Registry.settle, found, ← reply, ← Breaker.settle_ofReply]

end Undisturbed

end RetriedCall

/-- A whole call that is let through, in its parts: it asks, its operation runs, and it settles. -/
theorem Registry.perform_of_admitted {α : Type} (r : Registry) (clock : Clock) (name : String)
    (policy : Option BreakerPolicy) {permit : Permit}
    (let_through : (r.ask clock name policy).1 = .admitted permit)
    (operation : Operation (Reply α)) :
    let run := operation clock.now
    let asked := r.ask clock name policy
    let settled := asked.2.1.settle run.finished name (.ofReply run.reply)
    r.perform clock name policy none operation =
      ({ reply := .ofReply run.reply, finished := run.finished, invocations := run.invocations
         notices := Notice.atInstant clock.now asked.2.2 ++ run.notices ++
          Notice.atInstant run.finished settled.2 }, settled.1) := by
  rcases created : r.getOrCreate clock name policy with ⟨b, r', creation⟩
  rcases answer : b.ask clock.now with ⟨admission, b', notices⟩
  simp only [ask, created, answer] at let_through
  subst let_through
  simp only [perform, Breaker.perform, ask, created, answer, Breaker.limited, Run.map, settle,
    get?_put_self, put_put, Notice.atInstant, List.map_append, List.append_assoc]

namespace RetriedCall

open Journey (Occurrence)

variable {α : Type}

/-- If nothing else is done, a call that is let through is the whole protected call. -/
theorem run_undisturbed (p : Protection) (r : Registry) (clock : Clock) (retry : Retry)
    (script : Script α) {permit : Permit}
    (let_through : (r.ask clock p.dependency (p.policy r)).1 = .admitted permit)
    {es : List Occurrence} (undisturbed : ∀ e ∈ es, e.isDeed = false)
    (is_over : ((start p r clock retry).run (.ofScript script) es).isOver = true) :
    let whole := p.call r clock (retry.run script)
    let call := (start p r clock retry).run (.ofScript script) es
    call.result = .ended whole.1.reply whole.1.invocations ∧ call.registry = whole.2 ∧
      call.notices = whole.1.notices := by
  obtain ⟨course, unfinished, registry, -⟩ := course_start p r clock retry script let_through
  have settles := course.settle_run (toBool_reply_run retry script clock.now) unfinished
    undisturbed is_over
  rw [registry] at settles
  rw [Protection.call, r.perform_of_admitted clock _ _ let_through]
  exact settles

end RetriedCall

end Safeguard
