import Mathlib.Data.List.Induction
import Safeguard.Proofs.Health.Report
import Safeguard.Proofs.Retry.LastAttempt

/-!
# A dependency that is dead

The only check of a monitor always fails, with the same error. How often is it invoked in rounds
that follow one another, each begun as soon as the one before is over (`Monitor.watch`)? A round
makes all attempts of a retried call if the error passes for transient, and one if not
(`Retry.length_invocations_of_alwaysFails`). Each round is one failure of the breaker; the failure
that reaches the threshold opens it at the very instant at which the round ends, and from then on
rounds take no time, so the wait of the breaker never ends.

* `Scene.Sole` follows a round of one check on the clock: until the check is let through no time
  passes, and when it settles the round is at its end.
* `Worn` says what so many failed rounds have made of the breaker, and `Scene.worn_run` that one
  more round makes it that of one more.
* `Monitor.probes_of_dead` puts the rounds together.
-/

namespace Safeguard

/-! ## An operation that always fails -/

/-- Every invocation fails with the same error. -/
def Script.AlwaysFails {α : Type} (script : Script α) (error : String) : Prop :=
  ∀ n, (script n).reply = .error error

/-- How often an operation is tried that always fails with an error. -/
def RetryPolicy.triesOf (p : RetryPolicy) (error : String) : Nat :=
  if isTransient p.markers error = true then p.attempts else 1

namespace Retry

variable {α : Type} {r : Retry} {script : Script α} {error : String}

theorem length_runFrom_of_alwaysFails (dead : script.AlwaysFails error)
    (unlimited : r.policy.maxElapsed = none) {begun left attempt now : Nat}
    (number : attempt + left = r.policy.attempts) :
    (r.runFrom script begun left attempt now).invocations.length =
      if r.retryable error = true then left + 1 else 1 := by
  induction left generalizing attempt now with
  | zero =>
    rw [runFrom_of_last r (dead _) (.inl rfl)]
    exact (ite_self _).symm
  | succ left ih =>
    by_cases retryable : r.retryable error = true
    · have again : r.verdict attempt ((script (attempt - 1)).finish now - begun) error =
          .again (r.delay attempt) :=
        verdict_eq_again_iff.2 ⟨rfl, by omega, retryable, by simp [unlimited]⟩
      have rest : (r.runFrom script begun left (attempt + 1)
          (due ((script (attempt - 1)).finish now) (r.delay attempt))).invocations.length =
            if r.retryable error = true then left + 1 else 1 := ih (by omega)
      rw [runFrom_of_again r (dead _) again]
      rw [if_pos retryable] at rest ⊢
      exact congrArg (· + 1) rest
    · have last : ∀ delay, r.verdict attempt ((script (attempt - 1)).finish now - begun) error ≠
          .again delay :=
        fun delay again => retryable (verdict_eq_again_iff.1 again).2.2.1
      rw [runFrom_of_last r (dead _) (.inr last), if_neg retryable]
      rfl

/-- An operation that always fails is tried as often as the policy allows, or once if its error is
not worth another attempt. -/
theorem length_invocations_of_alwaysFails (dead : script.AlwaysFails error)
    (unlimited : r.policy.maxElapsed = none) (begun : Nat) :
    (r.run script begun).invocations.length =
      if r.retryable error = true then r.policy.attempts else 1 := by
  have one : 1 ≤ r.policy.attempts := Nat.le_max_right _ _
  rw [run, length_runFrom_of_alwaysFails dead unlimited (by omega), Nat.sub_add_cancel one]

theorem reply_run_of_alwaysFails (dead : script.AlwaysFails error) (begun : Nat) :
    (r.run script begun).reply = .error error := (r.reply_run script begun).trans (dead _)

end Retry

/-! ## A round of one check on the clock -/

namespace Probe

variable {p : Probe} {m : Nat × Probe × Moment}

theorem le_finished_of_mem_moments (inOrder : p.run.InOrder p.begun) (mem : m ∈ p.moments) :
    m.1 ≤ p.run.finished := by
  rw [moments_eq] at mem
  rcases List.mem_cons.1 mem with rfl | mem
  · exact inOrder.begun_le
  · rcases List.mem_append.1 mem with mem | mem
    · obtain ⟨n, reported, rfl⟩ := List.mem_map.1 mem
      exact (inOrder.within n reported).2
    · rw [List.mem_singleton.1 mem]

/-- The breaker is asked once, at the beginning. -/
theorem eq_of_ask_of_mem_moments (mem : m ∈ p.moments) (ask : m.2.2 = .ask) :
    m = (p.begun, p, .ask) := by
  rw [moments_eq] at mem
  rcases List.mem_cons.1 mem with rfl | mem
  · rfl
  · exact absurd ask (Scene.ne_ask_of_mem_sequel mem)

end Probe

/-- A check that has been invoked stays so. -/
theorem Round.Played.not_invoked {policy : BreakerPolicy} {r r' : Round}
    {m : Nat × Probe × Moment} (h : Played policy r m r') {name : String}
    (never : r'.invocations.get? name = none) : r.invocations.get? name = none := by
  cases h with
  | nothing | reported => exact never
  | @letThrough _ p =>
    by_cases own : name = p.name
    · rw [own, NameMap.get?_insert_self] at never
      cases never
    · rwa [NameMap.get?_insert_ne _ own] at never
  | turnedAway => rwa [invocations_conclude] at never
  | settled => rwa [settle_eq, invocations_conclude] at never

namespace Scene

/-- Nothing comes of the moments of a check that has not been let through, except that its breaker
is asked. -/
theorem eq_ask_of_live {s : Scene} {p : Probe} {m : Nat × Probe × Moment} (mem : m ∈ p.moments)
    (never : s.invoked p.name = none) (live : s.round.IsLive m) : m = (p.begun, p, .ask) := by
  refine Probe.eq_of_ask_of_mem_moments mem (live.resolve_right fun invoked => ?_)
  rw [Probe.probe_of_mem_moments mem, NameMap.contains,
    show s.round.invocations.get? p.name = none from never] at invoked
  cases invoked

/-- A round that runs nothing but one check, as a probe that began with the round. -/
structure Sole (p : Probe) (operation : Check) (s : Scene) : Prop where
  probe : p = Probe.start (s.retry p.name) p.begun p.name operation
  ahead : ∀ m ∈ s.pending, m ∈ p.moments
  queue : s.waiting = [] ∨ s.waiting = [(p.name, operation)] ∧ s.pending = [] ∧ s.now = p.begun
  now_le : s.now ≤ p.run.finished
  unasked : s.invoked p.name = none → s.now = p.begun

namespace Sole

variable {p : Probe} {operation : Check} {s : Scene}

theorem inOrder (h : s.Sole p operation) : p.run.InOrder p.begun := by
  rw [h.probe]
  exact Probe.inOrder_start _ _ _ _

theorem wait (h : s.Sole p operation) (d : Nat) : (s.wait d).Sole p operation := by
  cases upcoming : s.upcoming? with
  | none =>
    rw [Scene.wait, upcoming]
    exact h
  | some t =>
    obtain ⟨m, found, rfl⟩ := Option.map_eq_some_iff.1 upcoming
    have mem : m ∈ s.pending := List.mem_of_find?_eq_some found
    have live : s.round.IsLive m := by simpa using List.find?_some found
    have upto := Probe.le_finished_of_mem_moments h.inOrder (h.ahead m mem)
    have now_le := h.now_le
    rw [Scene.wait, upcoming]
    refine ⟨h.probe, h.ahead, h.queue.imp_right fun queued => ?_, ?_, fun never => ?_⟩
    · rw [queued.2.1] at mem
      cases mem
    · change max s.now (min (s.now + d) m.1) ≤ p.run.finished
      omega
    · have still := h.unasked never
      rw [eq_ask_of_live (h.ahead m mem) never live]
      change max s.now (min (s.now + d) p.begun) = p.begun
      omega

theorem play (h : s.Sole p operation) {m : Nat × Probe × Moment}
    {rest : List (Nat × Probe × Moment)} (next : s.pending = m :: rest) :
    (s.play m rest).Sole p operation := by
  have mem : m ∈ p.moments := h.ahead m (next ▸ List.mem_cons_self)
  have played := s.round.played_step s.monitor.settings.breaker m
  have upto := Probe.le_finished_of_mem_moments h.inOrder mem
  have now_le := h.now_le
  refine ⟨h.probe, fun m' mem' => h.ahead m' (next ▸ List.mem_cons_of_mem m mem'), .inl ?_, ?_,
    fun never => ?_⟩
  · exact h.queue.resolve_right fun queued => by
      rw [queued.2.1] at next
      cases next
  · by_cases live : s.round.IsLive m
    · rw [Scene.now, Scene.play, played.clock live]
      exact Nat.max_le.2 ⟨now_le, upto⟩
    · rw [Scene.now, Scene.play, played.eq_of_not_live live]
      exact now_le
  · have before : s.invoked p.name = none := played.not_invoked never
    have still := h.unasked before
    by_cases live : s.round.IsLive m
    · rw [Scene.now, Scene.play, played.clock live, eq_ask_of_live mem before live]
      exact Nat.max_eq_right (Nat.le_of_eq still)
    · rw [Scene.now, Scene.play, played.eq_of_not_live live]
      exact still

theorem step (h : s.Sole p operation) (e : Happening) : (s.step e).Sole p operation := by
  cases e with
  | wait d => exact h.wait d
  | deed d =>
    refine ⟨?_, h.ahead, h.queue, h.now_le, h.unasked⟩
    have same : (s.step (.deed d)).retry p.name = s.retry p.name := s.retry_run [.deed d] p.name
    rw [same]
    exact h.probe
  | proceed =>
    change s.proceed.Sole p operation
    obtain ⟨m, rest, next, eq⟩ | ⟨name, check, rest, idle, next, eq⟩ | ⟨-, eq⟩ := s.proceed_cases
    · rw [eq]
      exact h.play next
    · obtain queued | ⟨queued, -, now⟩ := h.queue
      · rw [queued] at next
        cases next
      · rw [queued] at next
        cases next
        rw [eq]
        refine ⟨h.probe, fun m mem => ?_, .inl rfl, h.now_le, h.unasked⟩
        rw [h.probe, ← now]
        exact mem
    · rw [eq]
      exact h

end Sole

section Runs

variable (m : Monitor) (clock : Clock) (registry : Registry) (draw : String → Nat → Float)

theorem sole_run {check : String} {operation : Check}
    (only : m.checks.entries = [(check, operation)]) (es : List Happening) :
    ((start m clock registry draw).run es).Sole
      (Probe.start (m.retry (draw check)) clock.now check operation) operation := by
  induction es using List.reverseRecOn with
  | append_singleton es e ih =>
    rw [run_concat]
    exact ih.step e
  | nil =>
    have begun := (Probe.inOrder_start (m.retry (draw check)) clock.now check operation).begun_le
    cases concurrent : m.settings.concurrent with
    | false =>
      refine ⟨rfl, ?_, .inr ⟨?_, ?_, rfl⟩, begun, fun _ => rfl⟩ <;>
        simp [start, concurrent, only, Probe.start]
    | true =>
      refine ⟨rfl, fun moment mem => ?_, .inl ?_, begun, fun _ => rfl⟩
      · simp only [run_nil, start, concurrent, if_true, only] at mem
        obtain ⟨p, probe, mem⟩ := mem_timetable_iff.1 mem
        rwa [List.mem_singleton.1 probe] at mem
      · simp [start, concurrent]

end Runs

end Scene

/-! ## The breaker of a check that fails in every round -/

namespace Monitor

/-- The only check always fails with an error; its breaker recovers after some time, and its retries
have no budget. -/
structure OnlyFails (m : Monitor) (check : String) (operation : Check) (error : String) : Prop where
  only : m.checks.entries = [(check, operation)]
  fails : operation.script.AlwaysFails error
  recovers : 0 < m.settings.breaker.recoveryTimeout
  unlimited : m.settings.retry.maxElapsed = none

/-- Whether the breaker of the check is closed after so many rounds. -/
abbrev BelowThreshold (m : Monitor) (rounds : Nat) : Prop :=
  rounds < m.settings.breaker.failureThreshold.toNat

/-- The error that is reported for the check after so many rounds. -/
def errorAfter (m : Monitor) (check error : String) (rounds : Nat) : String :=
  if m.BelowThreshold rounds then error
  else "circuit breaker is open for dependency '" ++ checkBreaker check ++ "'"

/-- How often the check is invoked in a round after so many. -/
def probesAfter (m : Monitor) (error : String) (rounds : Nat) : Nat :=
  if m.BelowThreshold rounds then m.settings.retry.triesOf error else 0

theorem OnlyFails.registered {m : Monitor} {check error : String} {operation : Check}
    (h : m.OnlyFails check operation error) : m.checks.get? check = some operation := by
  simp [NameMap.get?, h.only, NameMap.find]

end Monitor

/-- What so many failed rounds have made of the breaker of a check: it counts them, and is open and
waiting once they have reached the threshold. -/
inductive Worn (policy : BreakerPolicy) (now : Nat) : (rounds : Nat) → Option Breaker → Prop
  | unused (positive : 0 < policy.failureThreshold.toNat) : Worn policy now 0 none
  | counting {b : Breaker} (guard : b.policy = policy) (closed : b.circuit.state = .closed)
      (below : b.circuit.failures < policy.failureThreshold.toNat) :
      Worn policy now b.circuit.failures (some b)
  | givenUp {b : Breaker} {rounds next : Nat} (reached : policy.failureThreshold.toNat ≤ rounds)
      (opened : b.circuit.state = .opened) (eq : b.circuit.nextAttempt = some next)
      (waits : now < next) : Worn policy now rounds (some b)

section Worn

variable {policy : BreakerPolicy} {now rounds : Nat}

/-- Below the threshold the check is let through by a closed breaker that has counted the rounds. -/
theorem Worn.admitted {registry : Registry} {name : String}
    (worn : Worn policy now rounds (registry.get? name))
    (below : rounds < policy.failureThreshold.toNat) (clock : Clock) :
    ∃ b, (registry.ask clock name (some policy)).1 = .admitted ⟨false⟩ ∧
      (registry.ask clock name (some policy)).2.1.get? name = some b ∧
      b.circuit.state = .closed ∧ b.policy = policy ∧ b.circuit.failures = rounds := by
  obtain ⟨b, found, closed, guard, failures⟩ : ∃ b,
      (registry.getOrCreate clock name (some policy)).1 = b ∧ b.circuit.state = .closed ∧
        b.policy = policy ∧ b.circuit.failures = rounds := by
    generalize there : registry.get? name = guard at worn
    cases worn with
    | unused => exact ⟨_, by simp only [Registry.getOrCreate, there]; rfl, rfl, rfl, rfl⟩
    | counting same closed =>
      exact ⟨_, by rw [Registry.getOrCreate_of_get? there], closed, same, rfl⟩
    | givenUp reached => exact absurd below (Nat.not_lt.2 reached)
  have asked : b.circuit.ask clock.now = (.admitted ⟨false⟩, b.circuit) := by
    simp only [Circuit.ask, closed]
  refine ⟨(b.ask clock.now).2.1, ?_, ?_, ?_⟩
  · rw [Registry.admission_ask, found, Breaker.admission_ask, asked]
  · rw [Registry.get?_ask_self, found]
  · rw [Breaker.circuit_ask, asked]
    exact ⟨closed, guard, failures⟩

/-- One more failure makes a closed breaker that of one more round. -/
theorem worn_fail {b : Breaker} (guard : b.policy = policy) (closed : b.circuit.state = .closed)
    (below : b.circuit.failures < policy.failureThreshold.toNat)
    (recovers : 0 < policy.recoveryTimeout) :
    Worn policy now (b.circuit.failures + 1) (some (b.fail now).1) := by
  have word := policy.failureThreshold.toNat_lt
  have count : min (b.circuit.failures + 1) 4294967295 = b.circuit.failures + 1 := by omega
  have failures : (b.fail now).1.circuit.failures = b.circuit.failures + 1 :=
    (Circuit.failures_fail ..).trans count
  have reached : b.circuit.AtThreshold b.policy ↔
      policy.failureThreshold.toNat ≤ b.circuit.failures + 1 := by
    rw [Circuit.AtThreshold, count, guard]
  by_cases trips : policy.failureThreshold.toNat ≤ b.circuit.failures + 1
  · refine .givenUp trips ?_ ((Circuit.nextAttempt_fail ..).trans (if_pos (.inr (reached.2 trips))))
      ?_
    · exact (Circuit.state_fail ..).trans (if_pos (.inr (reached.2 trips)))
    · rw [guard]
      omega
  · rw [← failures]
    refine .counting guard ?_ (failures ▸ Nat.lt_of_not_le trips)
    refine (Circuit.state_fail ..).trans ((if_neg ?_).trans closed)
    rw [closed, reached]
    simpa using trips

end Worn

namespace Scene

/-- How often a check has been invoked. -/
def probes (s : Scene) (check : String) : Nat := ((s.invoked check).getD []).length

/-- The check of a probe has not been let through, and its breaker is open and waits for longer than
until the probe begins. -/
def Shut (p : Probe) (s : Scene) : Prop :=
  s.invoked p.name = none ∧ ∃ b next, s.guard p.name = some b ∧ b.circuit.state = .opened ∧
    b.circuit.nextAttempt = some next ∧ p.begun < next

section Shut

variable {p : Probe} {operation : Check} {s : Scene}

/-- A check that finds its breaker shut is turned away, which leaves the breaker as it is. -/
theorem Shut.play (h : s.Shut p) (sole : s.Sole p operation) {m : Nat × Probe × Moment}
    {rest : List (Nat × Probe × Moment)} (next : s.pending = m :: rest) :
    (s.play m rest).Shut p := by
  obtain ⟨never, b, end', guard, opened, eq, waits⟩ := h
  have mem : m ∈ p.moments := sole.ahead m (next ▸ List.mem_cons_self)
  by_cases live : s.round.IsLive m
  · have now : s.round.clock.now = p.begun := sole.unasked never
    have asked := Circuit.ask_of_waiting opened eq (now ▸ waits)
    have found := Registry.getOrCreate_of_get? guard s.round.clock
      (some s.monitor.settings.breaker)
    have rejected : (s.round.answer p s.monitor.settings.breaker).1 =
        .rejected (some (end' - s.round.clock.now)) := by
      rw [Round.answer, Registry.admission_ask, found, Breaker.admission_ask, asked]
    have round : (s.play m rest).round = s.round.ask s.monitor.settings.breaker p := by
      rw [eq_ask_of_live mem never live]
      change (s.round.waitUntil p.begun).ask _ p = _
      rw [Round.waitUntil_of_le (Nat.le_of_eq now.symm)]
    have still : (b.ask s.round.clock.now).2.1.circuit = b.circuit := by
      rw [Breaker.circuit_ask, asked]
    refine ⟨?_, (b.ask s.round.clock.now).2.1, end', ?_, still ▸ opened, still ▸ eq, waits⟩
    · rw [invoked, round, Round.ask_of_rejected rejected, Round.invocations_conclude]
      exact never
    · rw [Scene.guard, round, Round.registry_ask, Round.answer, Registry.get?_ask_self, found]
  · have same : (s.play m rest).round = s.round :=
      (s.round.played_step s.monitor.settings.breaker m).eq_of_not_live live
    refine ⟨?_, b, end', ?_, opened, eq, waits⟩
    · rwa [invoked, same]
    · rwa [Scene.guard, same]

theorem Shut.step (h : s.Shut p) (sole : s.Sole p operation) {e : Happening}
    (spared : e.breaker? ≠ some (checkBreaker p.name)) : (s.step e).Shut p := by
  have turn := s.step_cases p.name e
  generalize s.step e = s' at turn
  cases turn with
  | aside aside =>
    rw [Shut, aside.invoked, aside.spared spared]
    exact h
  | begun => exact h
  | own next => exact h.play sole next

end Shut

theorem now_le_run (s : Scene) (es : List Happening) : s.now ≤ (s.run es).now := by
  induction es using List.reverseRecOn with
  | nil => exact Nat.le_refl _
  | append_singleton es e ih =>
    rw [run_concat]
    exact Nat.le_trans ih (now_le_step _ e)

section Runs

variable (m : Monitor) (clock : Clock) (registry : Registry) (draw : String → Nat → Float)

theorem shut_run {check : String} {operation : Check}
    (only : m.checks.entries = [(check, operation)]) {es : List Happening}
    (spares : Spares check es) {b : Breaker} {next : Nat}
    (guard : registry.get? (checkBreaker check) = some b) (opened : b.circuit.state = .opened)
    (eq : b.circuit.nextAttempt = some next) (waits : clock.now < next) :
    ((start m clock registry draw).run es).Shut
      (Probe.start (m.retry (draw check)) clock.now check operation) := by
  induction es using List.reverseRecOn with
  | nil => exact ⟨rfl, b, next, guard, opened, eq, waits⟩
  | append_singleton es e ih =>
    rw [run_concat]
    exact (ih spares.of_concat.1).step (sole_run m clock registry draw only es)
      spares.of_concat.2

/-- A round is at its end when its only check settles. -/
theorem now_of_answered {check : String} {operation : Check}
    (only : m.checks.entries = [(check, operation)]) {before between : List Happening}
    (after : List Happening) {h : ServiceHealth}
    (answered : (start m clock registry draw).Answered check operation before between h) :
    ((start m clock registry draw).run before).now = clock.now ∧
      ((start m clock registry draw).run
        (before ++ .proceed :: between ++ .proceed :: after)).now =
        ((start m clock registry draw).attempts check operation before).finished := by
  have begun : ((start m clock registry draw).run before).now = clock.now := by
    obtain ⟨rest, next⟩ := answered.asks
    have mem := (sole_run m clock registry draw only before).ahead _
      (next ▸ List.mem_cons_self)
    exact congrArg Prod.fst (Probe.eq_of_ask_of_mem_moments mem rfl)
  refine ⟨begun, Nat.le_antisymm ?_ ?_⟩
  · have upto := (sole_run m clock registry draw only
      (before ++ .proceed :: between ++ .proceed :: after)).now_le
    rw [attempts, begun]
    exact upto
  · rw [← answered.ended]
    have split : before ++ .proceed :: between ++ .proceed :: after =
        before ++ .proceed :: between ++ [.proceed] ++ after := by simp
    rw [split, run_append _ _ after]
    exact now_le_run _ after

/-- What a round that is over shows of its only check after so many failed rounds. -/
structure Fails (m : Monitor) (check error : String) (rounds : Nat) (s : Scene) : Prop where
  worn : Worn m.settings.breaker s.now (rounds + 1) (s.guard check)
  entry : ∃ h, s.entry check = some h ∧ h.status = .down ∧
    h.error = some (m.errorAfter check error rounds)
  probes : s.probes check = m.probesAfter error rounds

variable {check error : String} {operation : Check} {rounds : Nat} {es : List Happening}
  {m clock registry draw}

/-- While its breaker is closed the check is let through and reports its own error. -/
theorem fails_of_lt (dead : m.OnlyFails check operation error) (spares : Spares check es)
    (isOver : ((start m clock registry draw).run es).IsOver)
    (worn : Worn m.settings.breaker clock.now rounds (registry.get? (checkBreaker check)))
    (below : m.BelowThreshold rounds) :
    ((start m clock registry draw).run es).Fails m check error rounds := by
  have admitted (before : List Happening)
      (same : ((start m clock registry draw).run before).guard check =
        registry.get? (checkBreaker check)) :
      ∃ b, (((start m clock registry draw).run before).answer check).1 = .admitted ⟨false⟩ ∧
        (((start m clock registry draw).run before).answer check).2.1.get? (checkBreaker check) =
          some b ∧
        b.circuit.state = .closed ∧ b.policy = m.settings.breaker ∧
        b.circuit.failures = rounds := by
    rw [← same] at worn
    have asked := worn.admitted below ((start m clock registry draw).run before).round.clock
    rw [answer, settings_run]
    exact asked
  obtain ⟨before, between, after, h, rfl, answered, shows, spared⟩ |
    ⟨before, after, h, -, turnedAway, shows, spared⟩ :=
    (stage_run m clock registry draw dead.registered es).of_isOver isOver
  · obtain ⟨first, second, last⟩ := spared spares
    obtain ⟨b, -, there, closed, guard, rfl⟩ := admitted before first
    obtain ⟨-, now⟩ := now_of_answered m clock registry draw dead.only after answered
    have reply : ((start m clock registry draw).attempts check operation before).reply =
        .error error := Retry.reply_run_of_alwaysFails dead.fails _
    have settling : ((start m clock registry draw).run
        (before ++ .proceed :: between)).guard check = some b := by
      rw [second, Scene.guard, answered.entered]
      exact there
    refine ⟨?_, ⟨h, shows.entry, ?_⟩, ?_⟩
    · rw [last, Scene.guard, answered.recorded, reply, Registry.get?_settle_self settling, ← now]
      exact worn_fail guard closed below dead.recovers
    · have tells := answered.tells
      rw [dead.fails] at tells
      rw [Monitor.errorAfter, if_pos below]
      exact ⟨tells.1, tells.2.1⟩
    · rw [probes, shows.invoked, Monitor.probesAfter, if_pos below]
      exact Retry.length_invocations_of_alwaysFails
        (r := (start m clock registry draw).retry check) dead.fails dead.unlimited _
  · obtain ⟨b, admitted, -⟩ := admitted before (spared spares)
    obtain ⟨retryIn, rejected⟩ := turnedAway.rejected
    rw [admitted] at rejected
    cases rejected

/-- Once its breaker is open the check is turned away, in no time. -/
theorem fails_of_le (dead : m.OnlyFails check operation error) (spares : Spares check es)
    (isOver : ((start m clock registry draw).run es).IsOver)
    (worn : Worn m.settings.breaker clock.now rounds (registry.get? (checkBreaker check)))
    (reached : ¬ m.BelowThreshold rounds) :
    ((start m clock registry draw).run es).Fails m check error rounds := by
  generalize there : registry.get? (checkBreaker check) = guard at worn
  cases worn with
  | unused positive => exact absurd positive reached
  | counting _ _ below => exact absurd below reached
  | @givenUp b _ next _ opened eq waits =>
    obtain ⟨never, b', next', guard', opened', eq', waits'⟩ :=
      shut_run m clock registry draw dead.only spares there opened eq waits
    have never : ((start m clock registry draw).run es).invoked check = none := never
    have now : ((start m clock registry draw).run es).now = clock.now :=
      (sole_run m clock registry draw dead.only es).unasked never
    refine ⟨?_, ?_, ?_⟩
    · rw [show ((start m clock registry draw).run es).guard check = some b' from guard', now]
      exact .givenUp (Nat.le_succ_of_le (Nat.le_of_not_lt reached)) opened' eq' waits'
    · obtain ⟨before, between, after, h, -, -, shows, -⟩ |
        ⟨before, after, h, -, turnedAway, shows, -⟩ :=
        (stage_run m clock registry draw dead.registered es).of_isOver isOver
      · cases never.symm.trans shows.invoked
      · rw [Monitor.errorAfter, if_neg reached]
        exact ⟨h, shows.entry, turnedAway.status, turnedAway.error⟩
    · rw [probes, never, Monitor.probesAfter, if_neg reached]
      rfl

theorem fails_run (dead : m.OnlyFails check operation error) (spares : Spares check es)
    (isOver : ((start m clock registry draw).run es).IsOver)
    (worn : Worn m.settings.breaker clock.now rounds (registry.get? (checkBreaker check))) :
    ((start m clock registry draw).run es).Fails m check error rounds := by
  by_cases below : m.BelowThreshold rounds
  · exact fails_of_lt dead spares isOver worn below
  · exact fails_of_le dead spares isOver worn below

end Runs

end Scene

/-! ## Rounds one after the other -/

/-- A round, and what else happens meanwhile. -/
structure Visit where
  draw : String → Nat → Float
  happenings : List Happening

/-- The round comes to its end, and nothing is done meanwhile to the breaker of a check or to what
is registered. -/
structure Visit.LeavesAlone (v : Visit) (m : Monitor) (check : String) : Prop where
  many : m.stepsPerCheck ≤ v.happenings.countP Happening.isProceed
  spares : Scene.Spares check v.happenings
  keeps : ∀ d, .deed d ∈ v.happenings → ∀ m' : Monitor, d.monitor m' = m'

namespace Scene

theorem monitor_step {s : Scene} {e : Happening}
    (keeps : ∀ d, .deed d = e → ∀ m : Monitor, d.monitor m = m) :
    (s.step e).monitor = s.monitor := by
  cases e with
  | wait d =>
    simp only [step, wait]
    split <;> rfl
  | deed d => exact keeps d rfl s.monitor
  | proceed =>
    simp only [step, proceed]
    split <;> rfl

theorem monitor_run {s : Scene} {es : List Happening}
    (keeps : ∀ d, .deed d ∈ es → ∀ m : Monitor, d.monitor m = m) :
    (s.run es).monitor = s.monitor := by
  induction es generalizing s with
  | nil => rfl
  | cons e es ih =>
    rw [run_cons, ih fun d mem => keeps d (List.mem_cons_of_mem e mem)]
    refine monitor_step ?_
    rintro d rfl
    exact keeps d List.mem_cons_self

/-- A round is over, the service is reported as unhealthy, and its only check as down with an
error. -/
structure ReportsDown (s : Scene) (check error : String) : Prop where
  isOver : s.IsOver
  service : ∃ h, s.health.services.entries = [(check, h)] ∧ h.status = .down ∧
    h.error = some error
  overall : s.health.status = .unhealthy

end Scene

/-- A map of one name has one entry. -/
theorem NameMap.entries_eq_singleton {α : Type} {m : NameMap α} {name : String} {value : α}
    (names : m.names = [name]) (found : m.get? name = some value) :
    m.entries = [(name, value)] := by
  obtain ⟨⟨key, old⟩, entries, rfl⟩ := List.map_eq_singleton_iff.1 names
  rw [get?, entries, find, if_pos rfl, Option.some.injEq] at found
  rw [entries, found]

namespace Monitor

/-- What there is at the end of rounds that follow one another, each begun as soon as the one before
is over. -/
def watch (m : Monitor) (clock : Clock) (registry : Registry) : List Visit → List Scene
  | [] => []
  | v :: visits =>
    let s := (Scene.start m clock registry v.draw).run v.happenings
    s :: (s.monitor.after s.round).watch s.round.clock s.round.registry visits

variable {m : Monitor} {clock : Clock} {registry : Registry} {check error : String}
  {operation : Check} {rounds : Nat}

/-- The next round finds a check that goes on to fail. -/
theorem OnlyFails.after (h : m.OnlyFails check operation error) (r : Round) :
    ∃ n, (m.after r).OnlyFails check (operation.after n) error := by
  refine ⟨((r.invocations.get? check).getD []).length, ?_, fun n => h.fails _, h.recovers,
    h.unlimited⟩
  simp [Monitor.after, NameMap.map, h.only]

/-- A round of a dead check ends and reports that the service is down. -/
theorem OnlyFails.reportsDown {draw : String → Nat → Float} {es : List Happening}
    (dead : m.OnlyFails check operation error)
    (isOver : ((Scene.start m clock registry draw).run es).IsOver)
    (fails : ((Scene.start m clock registry draw).run es).Fails m check error rounds) :
    ((Scene.start m clock registry draw).run es).ReportsDown check
      (m.errorAfter check error rounds) := by
  obtain ⟨h, entry, down, message⟩ := fails.entry
  have names : ((Scene.start m clock registry draw).run es).round.services.names = [check] := by
    rw [Scene.names_services m clock registry draw isOver, Monitor.names, NameMap.names, dead.only]
    rfl
  have entries := NameMap.entries_eq_singleton names entry
  refine ⟨isOver, ⟨h, entries, down, message⟩, ?_⟩
  change overallStatus ((((Scene.start m clock registry draw).run es).round.services.entries).map
    Prod.snd) = .unhealthy
  rw [entries]
  simp [overallStatus, down]

/-- From a breaker that is worn by so many rounds on, every round reports that the service is down,
and the check is invoked in those rounds that are still below the threshold. -/
theorem watch_of_worn (visits : List Visit) (dead : m.OnlyFails check operation error)
    (worn : Worn m.settings.breaker clock.now rounds (registry.get? (checkBreaker check)))
    (alone : ∀ v ∈ visits, v.LeavesAlone m check) :
    (∀ (i : Nat) (s : Scene), (m.watch clock registry visits)[i]? = some s →
        s.ReportsDown check (m.errorAfter check error (rounds + i))) ∧
      ((m.watch clock registry visits).map fun s => s.probes check) =
        (List.range' rounds visits.length).map (m.probesAfter error) := by
  induction visits generalizing m clock registry operation rounds with
  | nil => exact ⟨nofun, rfl⟩
  | cons v visits ih =>
    have leaves := alone v List.mem_cons_self
    have isOver : ((Scene.start m clock registry v.draw).run v.happenings).IsOver := by
      refine Scene.isOver_run m clock registry v.draw ?_
      rw [NameMap.size, dead.only, List.length_singleton, Nat.mul_one]
      exact leaves.many
    have fails := Scene.fails_run dead leaves.spares isOver worn
    have reports := dead.reportsDown isOver fails
    have monitor := Scene.monitor_run (s := Scene.start m clock registry v.draw) leaves.keeps
    rw [watch]
    generalize (Scene.start m clock registry v.draw).run v.happenings = s at *
    obtain ⟨n, next⟩ := dead.after s.round
    have same : s.monitor.after s.round = m.after s.round := congrArg (·.after s.round) monitor
    obtain ⟨rest, counts⟩ := ih (m := m.after s.round) next fails.worn fun v mem =>
      ⟨(alone v (List.mem_cons_of_mem _ mem)).many, (alone v (List.mem_cons_of_mem _ mem)).spares,
        (alone v (List.mem_cons_of_mem _ mem)).keeps⟩
    rw [same]
    refine ⟨fun i s' found => ?_, ?_⟩
    · cases i with
      | zero =>
        cases found
        exact reports
      | succ i =>
        rw [← Nat.succ_add_eq_add_succ]
        exact rest i s' found
    · rw [List.map_cons, List.length_cons, List.range'_succ, List.map_cons, fails.probes]
      exact congrArg _ counts

/-- Rounds below the threshold count, and later ones do not. -/
theorem sum_probesAfter (m : Monitor) (error : String) (rounds n : Nat) :
    ((List.range' rounds n).map (m.probesAfter error)).sum +
        min rounds m.settings.breaker.failureThreshold.toNat * m.settings.retry.triesOf error =
      min (rounds + n) m.settings.breaker.failureThreshold.toNat *
        m.settings.retry.triesOf error := by
  induction n generalizing rounds with
  | zero => simp
  | succ n ih =>
    have rest := ih (rounds + 1)
    rw [Nat.add_right_comm, Nat.add_assoc] at rest
    rw [List.range'_succ, List.map_cons, List.sum_cons, ← rest, probesAfter]
    by_cases below : m.BelowThreshold rounds
    · have first : min rounds m.settings.breaker.failureThreshold.toNat = rounds :=
        Nat.min_eq_left (Nat.le_of_lt below)
      have second : min (rounds + 1) m.settings.breaker.failureThreshold.toNat = rounds + 1 :=
        Nat.min_eq_left below
      rw [if_pos below, first, second, Nat.succ_mul]
      omega
    · have le := Nat.le_of_not_lt below
      rw [if_neg below, Nat.min_eq_right le, Nat.min_eq_right (Nat.le_succ_of_le le), Nat.zero_add]

/-! ## Examinations -/

/-- Examinations that follow one another, each begun as soon as the one before is over. -/
def examinations (m : Monitor) (clock : Clock) (registry : Registry) :
    List (Nat → Float) → List Examination
  | [] => []
  | draw :: draws =>
    let x := m.examine clock registry draw
    x :: x.monitor.examinations x.clock x.registry draws

theorem run_alone_of_isOver {s : Scene} (isOver : s.IsOver) (n : Nat) :
    s.run (Scene.alone n) = s := by
  induction n with
  | zero => rfl
  | succ n ih =>
    have still : s.step .proceed = s := by
      simp only [Scene.step, Scene.proceed, isOver.1, isOver.2]
    rw [Scene.alone, List.replicate_succ, Scene.run_cons, still, ih]

/-- Examinations are rounds in which nothing else happens. -/
theorem exists_watch_examinations (m : Monitor) (clock : Clock) (registry : Registry)
    (check : String) (draws : List (Nat → Float)) :
    ∃ visits : List Visit, visits.length = draws.length ∧
      (∀ v ∈ visits, v.LeavesAlone m check) ∧
      (m.watch clock registry visits).map Scene.upshot =
        (m.examinations clock registry draws).map Examination.upshot := by
  induction draws generalizing m clock registry with
  | nil => exact ⟨[], rfl, nofun, rfl⟩
  | cons draw draws ih =>
    obtain ⟨n, isOver, monitor, round⟩ := Scene.run_undisturbed m clock registry draw
    let v : Visit := ⟨fun _ => draw, Scene.alone (n + m.stepsPerCheck)⟩
    have only_proceed {e : Happening} (mem : e ∈ v.happenings) : e = .proceed :=
      (List.mem_replicate.1 mem).2
    have leaves : v.LeavesAlone m check := by
      refine ⟨?_, fun e mem => ?_, fun d mem => nomatch only_proceed mem⟩
      · rw [List.countP_replicate]
        exact Nat.le_add_left _ _
      · rw [only_proceed mem]
        nofun
    have run : (Scene.start m clock registry v.draw).run v.happenings =
        (Scene.start m clock registry fun _ => draw).run (Scene.alone n) := by
      change Scene.run _ (List.replicate _ _) = _
      rw [List.replicate_add, Scene.run_append, run_alone_of_isOver isOver]
    obtain ⟨visits, length, alone, same⟩ := ih (m.after (m.round clock registry draw))
      (m.round clock registry draw).clock (m.round clock registry draw).registry
    refine ⟨v :: visits, congrArg (· + 1) length, ?_, ?_⟩
    · intro v' mem
      rcases List.mem_cons.1 mem with rfl | mem
      · exact leaves
      · exact ⟨(alone v' mem).many, (alone v' mem).spares, (alone v' mem).keeps⟩
    · rw [watch, examinations, run, List.map_cons, List.map_cons, monitor, round]
      refine congrArg₂ _ ?_ same
      rw [Scene.upshot, Scene.health, monitor, round]
      rfl

/-! ## The bound -/

/-- **A dead dependency is probed a bounded number of times.** The only check of a monitor always
fails with an error, and its breaker does not exist yet. In rounds that follow one another, each
begun as soon as the one before is over, it is invoked so often as the retries try it, in as many
rounds as the threshold of the breaker. Every round ends and reports that the service is down, with
the error of the check in these rounds and that of the open breaker in the others. Examinations by
the monitor are such rounds. -/
theorem dead_dependency_probed (m : Monitor) (clock : Clock) (registry : Registry)
    {check error : String} {operation : Check}
    (positive : 1 ≤ m.settings.breaker.failureThreshold)
    (recovers : 0 < m.settings.breaker.recoveryTimeout)
    (unlimited : m.settings.retry.maxElapsed = none)
    (only : m.checks.entries = [(check, operation)])
    (fails : ∀ n, (operation.script n).reply = .error error)
    (unused : registry.get? (checkBreaker check) = none) :
    let threshold := m.settings.breaker.failureThreshold.toNat
    let tries :=
      if isTransient m.settings.retry.markers error = true then
        max 1 m.settings.retry.maxAttempts.toNat
      else 1
    (∀ visits : List Visit, (∀ v ∈ visits, v.LeavesAlone m check) →
        let scenes := m.watch clock registry visits
        scenes.length = visits.length ∧
          (scenes.map fun s => s.probes check).sum = min visits.length threshold * tries ∧
          ∀ (i : Nat) (s : Scene), scenes[i]? = some s → s.ReportsDown check
            (if i < threshold then error
              else "circuit breaker is open for dependency '" ++ checkBreaker check ++ "'")) ∧
      ∀ draws, ∃ visits : List Visit, visits.length = draws.length ∧
        (∀ v ∈ visits, v.LeavesAlone m check) ∧
        (m.watch clock registry visits).map Scene.upshot =
          (m.examinations clock registry draws).map Examination.upshot := by
  intro threshold tries
  refine ⟨fun visits alone => ?_, exists_watch_examinations m clock registry check⟩
  have dead : m.OnlyFails check operation error := ⟨only, fails, recovers, unlimited⟩
  have worn : Worn m.settings.breaker clock.now 0 (registry.get? (checkBreaker check)) := by
    rw [unused]
    exact .unused (UInt32.le_iff_toNat_le.1 positive)
  have tried : m.settings.retry.triesOf error = tries := by
    rw [RetryPolicy.triesOf, RetryPolicy.attempts, Nat.max_comm]
  obtain ⟨reports, counts⟩ := watch_of_worn visits dead worn alone
  refine ⟨?_, ?_, fun i s found => ?_⟩
  · have length := congrArg List.length counts
    simpa using length
  · have sum := sum_probesAfter m error 0 visits.length
    rw [← counts, Nat.zero_min, Nat.zero_mul, Nat.zero_add, tried] at sum
    exact sum
  · rw [← Nat.zero_add i]
    exact reports i s found

/-- Two attempts in each of two rounds, and none in the third. -/
theorem dead_dependency_probed_of_three_rounds :
    let db : Check := { script := fun _ => { delay := 5000000, reply := .error "timed out" } }
    let m : Monitor :=
      { settings := { breaker := { failureThreshold := 2 } }
        checks := NameMap.empty.insert "db" db }
    let visits : List Visit := List.replicate 3 ⟨fun _ _ => 0, Scene.alone 7⟩
    let scenes := m.watch { wallStart := 0 } {} visits
    (∀ v ∈ visits, v.LeavesAlone m "db") ∧ (scenes.map fun s => s.probes "db").sum = 4 ∧
      (∀ s, scenes[1]? = some s → s.ReportsDown "db" "timed out") ∧
      ∀ s, scenes[2]? = some s →
        s.ReportsDown "db" "circuit breaker is open for dependency 'health-db'" := by
  intro db m visits scenes
  have alone : ∀ v ∈ visits, v.LeavesAlone m "db" := by
    intro v mem
    rw [List.eq_of_mem_replicate mem]
    have only_proceed {e : Happening} (mem : e ∈ Scene.alone 7) : e = .proceed :=
      List.eq_of_mem_replicate mem
    refine ⟨by decide, fun e mem => ?_, fun d mem => nomatch only_proceed mem⟩
    rw [only_proceed mem]
    nofun
  obtain ⟨-, sum, reports⟩ := (dead_dependency_probed m { wallStart := 0 } {}
    (by decide) (by decide) rfl rfl (fun _ => rfl) rfl).1 visits alone
  have passes : isTransient m.settings.retry.markers "timed out" = true := by decide +kernel
  rw [if_pos passes] at sum
  exact ⟨alone, sum, fun s found => reports 1 s found, fun s found => reports 2 s found⟩

end Monitor

end Safeguard
