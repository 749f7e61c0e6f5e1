import Safeguard.Proofs.Health.Course

/-!
# Checks that nobody disturbs

What a check comes to that finds its breaker closed, if nobody else does anything to that breaker
and its waits do not depend on chance. It comes to the same whenever its turn is: all that counts
is what its attempts would do if it were alone and began at once (`Monitor.plainRun`), and what
the breaker has counted before (`Scene.stands_run`).

The instant at which a check begins matters in general, because timers go off at whole
milliseconds. But a round that begins at a whole millisecond is at one whenever a turn comes
(`Scene.punctual_run`), if its checks overlap, or if each of them hands over at a whole millisecond
to the next (`Monitor.HandsOver`).
-/

namespace Safeguard

/-- The attempts of a check that begins at the start of the clock. -/
def Monitor.plainRun (m : Monitor) (operation : Check) : Run (Reply Finding) :=
  (m.retry fun _ => 0).run operation.script 0

/-- Each check but the last by name is over at a whole millisecond if it begins at one. -/
def Monitor.HandsOver (m : Monitor) : Prop :=
  ∀ e ∈ m.checks.entries.dropLast, 1000000 ∣ (m.plainRun e.2).finished

/-- Checks whose invocations take whole milliseconds hand over at whole milliseconds. -/
theorem Monitor.handsOver_of_whole {m : Monitor}
    (whole : ∀ e ∈ m.checks.entries.dropLast, ∀ n, 1000000 ∣ (e.2.script n).delay) :
    m.HandsOver :=
  fun e mem => (m.retry fun _ => 0).dvd_finished_run e.2.script (whole e mem) (Nat.dvd_zero _)

/-- At a whole millisecond, and without jitter, a check makes its attempts as it would at the start
of the clock. -/
theorem Monitor.run_eq_later {m : Monitor} (steady : m.settings.retry.jitter = false)
    (draw : Nat → Float) (operation : Check) {now : Nat} (whole : 1000000 ∣ now) :
    (m.retry draw).run operation.script now = (m.plainRun operation).later now := by
  have same := Retry.agrees_ofPolicy steady draw fun _ => 0
  have later := Retry.run_later operation.script same whole 0
  rw [Nat.zero_add] at later
  exact later

/-- The state and the counters of a circuit. -/
def Circuit.numbers (c : Circuit) : CircuitState × Nat × Nat := (c.state, c.failures, c.successes)

/-- The state and the counters of a closed circuit after a call. -/
def numbersAfter (threshold : UInt32) (failures successes : Nat) :
    Reply Finding → CircuitState × Nat × Nat
  | .ok _ => (.closed, 0, successes + 1)
  | .error _ =>
    (if threshold.toNat ≤ min (failures + 1) maxWord32 then .opened else .closed,
      min (failures + 1) maxWord32, successes)

/-- A check finds its breaker closed, with a threshold and counters, whether it is there already
or will be created. -/
inductive FindsClosed (policy : BreakerPolicy) :
    Option Breaker → (threshold : UInt32) → (failures successes : Nat) → Prop
  | absent : FindsClosed policy none policy.failureThreshold 0 0
  | present {b : Breaker} (closed : b.circuit.state = .closed) :
      FindsClosed policy (some b) b.policy.failureThreshold b.circuit.failures
        b.circuit.successes

/-- A closed circuit counts a call as `numbersAfter` says. -/
theorem numbers_settle {b : Breaker} (closed : b.circuit.state = .closed) (now : Nat)
    (reply : Reply Finding) :
    (b.settle now (CallReply.ofReply reply)).1.circuit.numbers =
      numbersAfter b.policy.failureThreshold b.circuit.failures b.circuit.successes reply := by
  cases reply with
  | ok finding =>
    change b.circuit.succeed.numbers = _
    simp only [Circuit.numbers, Circuit.state_succeed, closed, Circuit.failures_succeed,
      Circuit.successes_succeed, numbersAfter, reduceCtorEq, if_false]
  | error error =>
    change (b.circuit.fail b.policy now).numbers = _
    simp only [Circuit.numbers, Circuit.state_fail, closed, Circuit.AtThreshold,
      Circuit.failures_fail, Circuit.successes_fail, numbersAfter, reduceCtorEq, false_or]

/-- A check that finds its breaker closed is let through, and the breaker has counted nothing
yet. -/
theorem FindsClosed.admitted {policy : BreakerPolicy} {registry : Registry} {name : String}
    {threshold : UInt32} {failures successes : Nat}
    (finds : FindsClosed policy (registry.get? name) threshold failures successes)
    (clock : Clock) :
    ∃ b, (registry.ask clock name (some policy)).1 = .admitted ⟨false⟩ ∧
      (registry.ask clock name (some policy)).2.1.get? name = some b ∧
      b.circuit.state = .closed ∧ b.policy.failureThreshold = threshold ∧
      b.circuit.failures = failures ∧ b.circuit.successes = successes := by
  obtain ⟨b, found, closed, rfl, rfl, rfl⟩ : ∃ b,
      (registry.getOrCreate clock name (some policy)).1 = b ∧ b.circuit.state = .closed ∧
        b.policy.failureThreshold = threshold ∧ b.circuit.failures = failures ∧
        b.circuit.successes = successes := by
    generalize there : registry.get? name = guard at finds
    cases finds with
    | absent => exact ⟨_, by simp only [Registry.getOrCreate, there]; rfl, rfl, rfl, rfl, rfl⟩
    | present closed =>
      exact ⟨_, by rw [Registry.getOrCreate_of_get? there], closed, rfl, rfl, rfl⟩
  have asked : b.circuit.ask clock.now = (.admitted ⟨false⟩, b.circuit) := by
    simp only [Circuit.ask, closed]
  refine ⟨(b.ask clock.now).2.1, ?_, ?_, ?_⟩
  · rw [Registry.admission_ask, found, Breaker.admission_ask, asked]
  · rw [Registry.get?_ask_self, found]
  · rw [Breaker.circuit_ask, asked]
    exact ⟨closed, rfl, rfl, rfl⟩

namespace Scene

/-! ## Whole milliseconds -/

/-- Turns come at whole milliseconds. As long as there are checks that wait for theirs, checks also
settle at whole milliseconds, and the round rests at one. -/
structure Punctual (m : Monitor) (s : Scene) : Prop where
  hands_over : ∀ e ∈ s.waiting.dropLast, 1000000 ∣ (m.plainRun e.2).finished
  asks : ∀ moment ∈ s.pending, moment.2.2 = .ask → 1000000 ∣ moment.1
  settles : s.waiting ≠ [] → ∀ moment ∈ s.pending, moment.2.2 = .settle → 1000000 ∣ moment.1
  rests : s.waiting ≠ [] → (∀ moment ∈ s.pending, ¬ s.round.IsLive moment) → 1000000 ∣ s.now

/-- A check is asked when its turn comes, and settles at its end. -/
theorem instant_of_mem_moments {p : Probe} {moment : Nat × Probe × Moment}
    (mem : moment ∈ p.moments) :
    (moment.2.2 = .ask → moment.1 = p.begun) ∧
      (moment.2.2 = .settle → moment.1 = p.run.finished) := by
  rw [Probe.moments_eq] at mem
  rcases List.mem_cons.1 mem with rfl | mem
  · exact ⟨fun _ => rfl, nofun⟩
  · rcases List.mem_append.1 mem with mem | mem
    · obtain ⟨n, -, rfl⟩ := List.mem_map.1 mem
      exact ⟨nofun, nofun⟩
    · rw [List.mem_singleton.1 mem]
      exact ⟨nofun, fun _ => rfl⟩

section Punctual

variable {m : Monitor} {s : Scene}

theorem Punctual.wait (h : s.Punctual m) (d : Nat) : (s.wait d).Punctual m := by
  cases upcoming : s.upcoming? with
  | none =>
    rw [Scene.wait, upcoming]
    exact h
  | some t =>
    rw [Scene.wait, upcoming]
    refine ⟨h.hands_over, h.asks, h.settles, fun _ dead => ?_⟩
    obtain ⟨moment, found, -⟩ := Option.map_eq_some_iff.1 upcoming
    have live : s.round.IsLive moment := by simpa using List.find?_some found
    exact absurd live (dead moment (List.mem_of_find?_eq_some found))

theorem Punctual.beginTurn (steady : m.settings.retry.jitter = false)
    (same : s.monitor.settings = m.settings) (h : s.Punctual m) (idle : s.pending = [])
    {name : String} {check : Check} {rest : List (String × Check)}
    (next : s.waiting = (name, check) :: rest) : (s.beginTurn name check rest).Punctual m := by
  have whole : 1000000 ∣ s.now := by
    refine h.rests (next ▸ List.cons_ne_nil _ _) fun moment mem => ?_
    rw [idle] at mem
    cases mem
  refine ⟨fun e mem => h.hands_over e ?_, fun moment mem ask => ?_,
    fun more moment mem settle => ?_, fun _ dead => ?_⟩
  · rw [next]
    cases rest with
    | nil => cases mem
    | cons => exact List.mem_cons_of_mem _ mem
  · rw [(instant_of_mem_moments mem).1 ask]
    exact whole
  · -- others wait after this check, so it hands over to them
    have run : (s.retry name).run check.script s.now = (m.plainRun check).later s.now := by
      rw [retry, Monitor.retry, same]
      exact Monitor.run_eq_later steady (s.draw name) check whole
    have ends : 1000000 ∣ (m.plainRun check).finished := by
      refine h.hands_over (name, check) ?_
      have ne : rest ≠ [] := more
      rw [next, List.dropLast_cons_of_ne_nil ne]
      exact List.mem_cons_self
    rw [(instant_of_mem_moments mem).2 settle]
    change 1000000 ∣ ((s.retry name).run check.script s.now).finished
    rw [run]
    exact Nat.dvd_add ends whole
  · exact absurd (.inl rfl) (dead _ List.mem_cons_self)

/-- What a report leaves alone. -/
theorem invocations_play_report {time : Nat} {p : Probe} {notice : Notice}
    (rest : List (Nat × Probe × Moment)) (live : s.round.IsLive (time, p, .report notice)) :
    (s.play (time, p, .report notice) rest).round.invocations = s.round.invocations := by
  have round : (s.play (time, p, .report notice) rest).round =
      { s.round.waitUntil time with notices := s.round.notices ++ [notice] } :=
    if_pos (live.resolve_left nofun)
  rw [round]
  rfl

/-- A round rests when a check settles or is turned away, but not when one reports something and
goes on. -/
theorem Punctual.play (h : s.Punctual m) (orderly : s.Orderly) {moment : Nat × Probe × Moment}
    {rest : List (Nat × Probe × Moment)} (next : s.pending = moment :: rest)
    (goesOn : ∀ notice, moment.2.2 = .report notice → s.round.IsLive moment →
      ∃ moment' ∈ rest, s.round.invocations.contains moment'.2.1.name = true) :
    (s.play moment rest).Punctual m := by
  have first : moment ∈ s.pending := next ▸ List.mem_cons_self
  have later : ∀ moment' ∈ rest, moment' ∈ s.pending := fun moment' mem =>
    next ▸ List.mem_cons_of_mem moment mem
  refine ⟨h.hands_over, fun moment' mem => h.asks moment' (later moment' mem),
    fun more moment' mem => h.settles more moment' (later moment' mem), fun more dead => ?_⟩
  have played := s.round.played_step s.monitor.settings.breaker moment
  by_cases live : s.round.IsLive moment
  · have now : (s.play moment rest).now = moment.1 := by
      rw [Scene.now, Scene.play, played.clock live]
      exact Nat.max_eq_right (orderly.onTime moment first live)
    obtain ⟨time, p, moment⟩ := moment
    rw [now]
    cases moment with
    | ask => exact h.asks _ first rfl
    | settle => exact h.settles more _ first rfl
    | report notice =>
      obtain ⟨m', mem, invoked⟩ := goesOn notice rfl live
      refine absurd (.inr ?_) (dead m' mem)
      rwa [invocations_play_report rest live]
  · have same : (s.play moment rest).round = s.round := played.eq_of_not_live live
    rw [Scene.now, same]
    refine h.rests more fun moment' mem => ?_
    rw [next] at mem
    rcases List.mem_cons.1 mem with rfl | mem
    · exact live
    · rw [← same]
      exact dead moment' mem

end Punctual

section Runs

variable (m : Monitor) (clock : Clock) (registry : Registry) (draw : String → Nat → Float)

/-- The end of a check that reports something is still ahead. -/
theorem exists_settle_ahead {es : List Happening} {time : Nat} {p : Probe} {notice : Notice}
    {rest : List (Nat × Probe × Moment)}
    (next : ((start m clock registry draw).run es).pending = (time, p, .report notice) :: rest)
    (live : ((start m clock registry draw).run es).round.IsLive (time, p, .report notice)) :
    ∃ m' ∈ rest,
      ((start m clock registry draw).run es).round.invocations.contains m'.2.1.name = true := by
  have ahead := ahead_of_own next rfl
  have contains := live.resolve_left nofun
  cases registered : m.checks.get? p.name with
  | none =>
    rw [(shows_run_of_absent m clock registry draw registered es).ahead] at ahead
    cases ahead
  | some operation =>
    cases stage_run m clock registry draw registered es with
    | waiting shows _ | answered _ _ _ _ _ _ shows _ =>
      rw [shows.ahead] at ahead
      cases ahead
    | ready p _ _ shows _ =>
      rw [shows.ahead] at ahead
      cases ahead
    | turnedAway _ _ _ _ _ _ _ shows _ =>
      rw [NameMap.contains, show NameMap.get? _ p.name = none from shows.invoked] at contains
      cases contains
    | underWay before between q notices underWay =>
      rw [underWay.shows.ahead] at ahead
      cases notices with
      | nil => cases ahead
      | cons n notices =>
        have settle : (q.run.finished, q, .settle) ∈
            (((start m clock registry draw).run es).play (time, p, .report notice) rest).ahead
              p.name := by
          rw [← (List.cons.inj ahead).2]
          exact List.mem_append_right _ (List.mem_singleton.2 rfl)
        refine ⟨_, (List.mem_filter.1 settle).1, ?_⟩
        rw [underWay.name]
        exact contains

/-- Whatever else happens, turns come at whole milliseconds in a round that begins at one. -/
theorem punctual_run (steady : m.settings.retry.jitter = false) (whole : 1000000 ∣ clock.now)
    (hands_over : m.settings.concurrent = false → m.HandsOver) (es : List Happening) :
    ((start m clock registry draw).run es).Punctual m := by
  induction es using List.reverseRecOn with
  | nil =>
    cases concurrent : m.settings.concurrent with
    | false =>
      refine ⟨?_, ?_, ?_, fun _ _ => whole⟩
      · simpa [start, concurrent, Monitor.HandsOver] using hands_over concurrent
      · simp [start, concurrent]
      · simp [start, concurrent]
    | true =>
      refine ⟨?_, ?_, ?_, ?_⟩
      · simp [start, concurrent]
      · intro moment mem ask
        simp only [run_nil, start, concurrent, if_true] at mem
        obtain ⟨p, probe, mem⟩ := mem_timetable_iff.1 mem
        obtain ⟨⟨name, check⟩, -, rfl⟩ := List.mem_map.1 probe
        rw [(instant_of_mem_moments mem).1 ask]
        exact whole
      · simp [start, concurrent]
      · simp [start, concurrent]
  | append_singleton es e ih =>
    rw [run_concat]
    cases e with
    | wait d => exact ih.wait d
    | deed d => exact ⟨ih.hands_over, ih.asks, ih.settles, ih.rests⟩
    | proceed =>
      change ((start m clock registry draw).run es).proceed.Punctual m
      obtain ⟨moment, rest, next, eq⟩ | ⟨name, check, rest, idle, next, eq⟩ | ⟨-, eq⟩ :=
        ((start m clock registry draw).run es).proceed_cases
      · rw [eq]
        refine ih.play (orderly_run m clock registry draw es) next fun notice report live => ?_
        obtain ⟨time, p, moment⟩ := moment
        cases report
        exact exists_settle_ahead m clock registry draw next live
      · rw [eq]
        exact ih.beginTurn steady (settings_run _ es) idle next
      · rw [eq]
        exact ih

end Runs

/-! ## What a check comes to -/

/-- A check has come to what a run of its attempts and the numbers of its breaker say. -/
structure Stands (s : Scene) (check : String) (run : Run (Reply Finding))
    (numbers : CircuitState × Nat × Nat) : Prop where
  result : ∃ h, s.entry check = some h ∧ h.Tells run.reply run.finished ∧
    h.circuitState = some numbers.1
  invoked : ∃ invocations, s.invoked check = some invocations ∧
    invocations.length = run.invocations.length
  breaker : ∃ b, s.guard check = some b ∧ b.circuit.numbers = numbers

/-- A check that was let through, and whose breaker nobody else has touched since, has come to
what its attempts say. -/
theorem Answered.stands {s : Scene} {check : String} {operation : Check}
    {es before between : List Happening} {h : ServiceHealth} {run : Run (Reply Finding)}
    {b : Breaker} (answered : s.Answered check operation before between h)
    (shows : (s.run es).Shows check none [] (some (s.attempts check operation before).invocations)
      (some h))
    (attempts : s.attempts check operation before = run.later (s.run before).now)
    (asked : ((s.run before).answer check).2.1.get? (checkBreaker check) = some b)
    (closed : b.circuit.state = .closed)
    (between_spared : (s.run (before ++ .proceed :: between)).guard check =
      (s.run (before ++ [.proceed])).guard check)
    (after_spared : (s.run es).guard check =
      (s.run (before ++ .proceed :: between ++ [.proceed])).guard check) :
    Stands (s.run es) check run
      (numbersAfter b.policy.failureThreshold b.circuit.failures b.circuit.successes
        run.reply) := by
  -- The breaker that was asked is the one that the check settles with.
  have settling : (s.run (before ++ .proceed :: between)).guard check = some b := by
    rw [between_spared, guard, answered.entered]
    exact asked
  have settled : (s.run (before ++ .proceed :: between ++ [.proceed])).guard check =
      some (b.settle (s.attempts check operation before).finished
        (CallReply.ofReply run.reply)).1 := by
    rw [guard, answered.recorded, attempts]
    exact Registry.get?_settle_self settling _ _
  have numbers := numbers_settle closed (s.attempts check operation before).finished run.reply
  refine ⟨⟨h, shows.entry, ?_, ?_⟩, ⟨_, shows.invoked, ?_⟩,
    ⟨_, after_spared.trans settled, numbers⟩⟩
  · have tells := answered.tells
    rw [← reply_attempts, answered.ended, attempts] at tells
    simpa only [Run.later, Nat.add_sub_cancel] using tells
  · obtain ⟨b', there, state⟩ := answered.hasState
    rw [settled] at there
    obtain rfl := Option.some.inj there
    rw [state, ← numbers]
    rfl
  · rw [attempts]
    exact List.length_map _

section Runs

variable (m : Monitor) (clock : Clock) (registry : Registry) (draw : String → Nat → Float)

/-- **What a check comes to that finds its breaker closed and is not disturbed** does not depend on
when its turn comes. -/
theorem stands_run (steady : m.settings.retry.jitter = false) (whole : 1000000 ∣ clock.now)
    (hands_over : m.settings.concurrent = false → m.HandsOver)
    {check : String} {operation : Check} (registered : m.checks.get? check = some operation)
    {threshold : UInt32} {failures successes : Nat}
    (finds : FindsClosed m.settings.breaker (registry.get? (checkBreaker check)) threshold
      failures successes)
    {es : List Happening} (spares : Spares check es)
    (isOver : ((start m clock registry draw).run es).IsOver) :
    Stands ((start m clock registry draw).run es) check (m.plainRun operation)
      (numbersAfter threshold failures successes (m.plainRun operation).reply) := by
  have stage := stage_run m clock registry draw registered es
  generalize beginning : start m clock registry draw = s at *
  have initial : s.guard check = registry.get? (checkBreaker check) := by
    rw [← beginning]
    rfl
  have admitted : ∀ before, (s.run before).guard check = s.guard check →
      ∃ b, ((s.run before).answer check).1 = .admitted ⟨false⟩ ∧
        ((s.run before).answer check).2.1.get? (checkBreaker check) = some b ∧
        b.circuit.state = .closed ∧ b.policy.failureThreshold = threshold ∧
        b.circuit.failures = failures ∧ b.circuit.successes = successes := by
    intro before same
    rw [← initial, ← same] at finds
    have policy : m.settings.breaker = (s.run before).monitor.settings.breaker := by
      rw [settings_run, ← beginning]
      rfl
    rw [policy] at finds
    exact finds.admitted _
  obtain ⟨before, between, after, h, split, answered, shows, spared⟩ |
    ⟨before, after, h, split, turnedAway, shows, spared⟩ := stage.of_isOver isOver
  · obtain ⟨first, second, last⟩ := spared spares
    obtain ⟨b, -, there, closed, rfl, rfl, rfl⟩ := admitted before first
    have whole : 1000000 ∣ (s.run before).now := by
      obtain ⟨rest, next⟩ := answered.asks
      have punctual := punctual_run m clock registry draw steady whole hands_over before
      rw [beginning] at punctual
      exact punctual.asks _ (next ▸ List.mem_cons_self) rfl
    have attempts : s.attempts check operation before =
        (m.plainRun operation).later (s.run before).now := by
      rw [← beginning] at whole ⊢
      exact Monitor.run_eq_later steady (draw check) operation whole
    exact answered.stands shows attempts there closed second last
  · obtain ⟨b, admitted, -⟩ := admitted before (spared spares)
    obtain ⟨retryIn, rejected⟩ := turnedAway.rejected
    rw [admitted] at rejected
    cases rejected

/-- A round leaves the breakers of all other checks alone. -/
theorem guard_run_of_absent {check : String} (absent : m.checks.get? check = none)
    {es : List Happening} (spares : Spares check es) :
    ((start m clock registry draw).run es).guard check = registry.get? (checkBreaker check) := by
  induction es using List.reverseRecOn with
  | nil => rfl
  | append_singleton es e ih =>
    have aside :=
      aside_of_absent (shows_run_of_absent m clock registry draw absent es) e
    rw [run_concat]
    exact (aside.spared spares.of_concat.2).trans (ih spares.of_concat.1)

end Runs

end Scene

end Safeguard
