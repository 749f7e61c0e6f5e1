import Safeguard.Proofs.Health.Scene

/-!
# The course of one check

What becomes of a check in a round that is not alone. Its turn comes, its breaker is asked, and the
breaker turns it away (`Scene.TurnedAway`) or lets it through; then its attempts are made, and it
settles (`Scene.Answered`). Each of these names the scenes in which it happens by what has happened
before them.

`Scene.stage_run` says at which `Stage` of this course a check is after a run, whatever else
happens in it; when the round is over it is at the end (`Scene.Stage.reports`). A stage also
remembers what nothing but the check itself has done to its breaker, provided that nothing else
that happens is about that breaker (`Scene.Spares`).
-/

namespace Safeguard

/-- What the result of a check says that was let through: what its last attempt replied, and how
long the check took if that was a finding. -/
def ServiceHealth.Tells (h : ServiceHealth) (reply : Reply Finding) (took : Nat) : Prop :=
  match reply with
  | .ok finding =>
    h.status = finding.status ∧ h.error = finding.error ∧ h.responseTime = some took
  | .error error => h.status = .down ∧ h.error = some error ∧ h.responseTime = none

namespace Scene

/-! ## What becomes of a check -/

/-- What the breaker of a check answers if it is asked now. -/
def answer (s : Scene) (check : String) : Admission × Registry × List Notice :=
  s.round.registry.ask s.round.clock (checkBreaker check) (some s.monitor.settings.breaker)

/-- A result has the state that the breaker of the check is in now. -/
def HasState (s : Scene) (check : String) (h : ServiceHealth) : Prop :=
  ∃ b, s.guard check = some b ∧ h.circuitState = some b.circuit.state

/-- How the attempts of a check go that is let through after `before`. -/
def attempts (s : Scene) (check : String) (operation : Check) (before : List Happening) :
    Run (Reply Finding) :=
  (s.retry check).run operation.script (s.run before).now

/-- The reply of a check is that of its last attempt. -/
theorem reply_attempts (s : Scene) (check : String) (operation : Check)
    (before : List Happening) :
    (s.attempts check operation before).reply =
      (operation.script ((s.attempts check operation before).invocations.length - 1)).reply :=
  (s.retry check).reply_run operation.script (s.run before).now

/-- The round goes on by asking the breaker of a check, at the instant at which the check begins. -/
def Asks (s : Scene) (check : String) (operation : Check) : Prop :=
  ∃ rest,
    s.pending = (s.now, Probe.start (s.retry check) s.now check operation, .ask) :: rest

/-- The round goes on with the end of a check that began at an instant. -/
def Settles (s : Scene) (check : String) (operation : Check) (begun : Nat) : Prop :=
  let p := Probe.start (s.retry check) begun check operation
  ∃ rest, s.pending = (p.run.finished, p, .settle) :: rest

/-- After `before` the breaker of a check is asked and turns it away, which makes its result. -/
structure TurnedAway (s : Scene) (check : String) (operation : Check) (before : List Happening)
    (h : ServiceHealth) : Prop where
  asks : (s.run before).Asks check operation
  rejected : ∃ retryIn, ((s.run before).answer check).1 = .rejected retryIn
  recorded : (s.run (before ++ [.proceed])).round.registry = ((s.run before).answer check).2.1
  status : h.status = .down
  error : h.error =
    some ("circuit breaker is open for dependency '" ++ checkBreaker check ++ "'")
  responseTime : h.responseTime = none
  hasState : (s.run (before ++ [.proceed])).HasState check h

/-- After `before` the breaker of a check is asked and lets it through. -/
structure LetThrough (s : Scene) (check : String) (operation : Check)
    (before : List Happening) : Prop where
  asks : (s.run before).Asks check operation
  admitted : ∃ permit, ((s.run before).answer check).1 = .admitted permit
  entered : (s.run (before ++ [.proceed])).round.registry = ((s.run before).answer check).2.1

/-- After `before` the breaker of a check lets it through, and after `between` the check settles
with its last attempt, which makes its result. -/
structure Answered (s : Scene) (check : String) (operation : Check)
    (before between : List Happening) (h : ServiceHealth) : Prop
    extends LetThrough s check operation before where
  settles : (s.run (before ++ .proceed :: between)).Settles check operation (s.run before).now
  ended : (s.run (before ++ .proceed :: between ++ [.proceed])).now =
    (s.attempts check operation before).finished
  recorded : (s.run (before ++ .proceed :: between ++ [.proceed])).round.registry =
    ((s.run (before ++ .proceed :: between)).round.registry.settle
      (s.attempts check operation before).finished (checkBreaker check)
      (CallReply.ofReply (s.attempts check operation before).reply)).1
  tells : h.Tells
    (operation.script ((s.attempts check operation before).invocations.length - 1)).reply
    ((s.run (before ++ .proceed :: between ++ [.proceed])).now - (s.run before).now)
  hasState : (s.run (before ++ .proceed :: between ++ [.proceed])).HasState check h

/-! ## Stages -/

/-- Nothing that happens besides the round is done to the breaker of a check. -/
def Spares (check : String) (es : List Happening) : Prop :=
  ∀ e ∈ es, e.breaker? ≠ some (checkBreaker check)

/-- What a scene shows of a check. -/
structure Shows (s : Scene) (check : String) (queued : Option Check)
    (ahead : List (Nat × Probe × Moment)) (invoked : Option (List Nat))
    (entry : Option ServiceHealth) : Prop where
  queued : s.queued check = queued
  ahead : s.ahead check = ahead
  invoked : s.invoked check = invoked
  entry : s.entry check = entry

/-- After `before` a check has been let through; its attempts are made, and there are notices
ahead. -/
structure UnderWay (s : Scene) (check : String) (operation : Check)
    (es before between : List Happening) (p : Probe) (notices : List (Nat × Notice)) : Prop where
  split : es = before ++ .proceed :: between
  letThrough : s.LetThrough check operation before
  probe : p = Probe.start (s.retry check) (s.run before).now check operation
  shows : (s.run es).Shows check none
    (notices.map (fun n => (n.1, p, .report n.2)) ++ [(p.run.finished, p, .settle)])
    (some p.run.invocations) none
  present : ((s.run es).guard check).isSome = true
  spared : Spares check es →
    (s.run before).guard check = s.guard check ∧
      (s.run es).guard check = (s.run (before ++ [.proceed])).guard check

/-- How far a check has come in a run that begins with a scene. -/
inductive Stage (s : Scene) (check : String) (operation : Check) (es : List Happening) : Prop
  /-- Its turn has not come. -/
  | waiting (shows : (s.run es).Shows check (some operation) [] none none)
      (spared : Spares check es → (s.run es).guard check = s.guard check)
  /-- Its breaker is asked next. -/
  | ready (p : Probe) (probe : p = Probe.start (s.retry check) p.begun check operation)
      (reached : p.begun ≤ (s.run es).now)
      (shows : (s.run es).Shows check none p.moments none none)
      (spared : Spares check es → (s.run es).guard check = s.guard check)
  /-- Its attempts are made. -/
  | underWay (before between : List Happening) (p : Probe) (notices : List (Nat × Notice))
      (underWay : UnderWay s check operation es before between p notices)
  /-- It has settled. -/
  | answered (before between after : List Happening)
      (split : es = before ++ .proceed :: between ++ .proceed :: after) (h : ServiceHealth)
      (answered : s.Answered check operation before between h)
      (shows : (s.run es).Shows check none []
        (some (s.attempts check operation before).invocations) (some h))
      (spared : Spares check es →
        (s.run before).guard check = s.guard check ∧
          (s.run (before ++ .proceed :: between)).guard check =
            (s.run (before ++ [.proceed])).guard check ∧
          (s.run es).guard check =
            (s.run (before ++ .proceed :: between ++ [.proceed])).guard check)
  /-- Its breaker has turned it away. -/
  | turnedAway (before after : List Happening) (split : es = before ++ .proceed :: after)
      (h : ServiceHealth) (turnedAway : s.TurnedAway check operation before h)
      (moments : List (Nat × Probe × Moment)) (dead : ∀ m ∈ moments, m.2.2 ≠ .ask)
      (shows : (s.run es).Shows check none moments none (some h))
      (spared : Spares check es → (s.run before).guard check = s.guard check)

section Course

variable {s : Scene} {check : String} {operation : Check} {es : List Happening}

theorem Spares.of_concat {e : Happening} (h : Spares check (es ++ [e])) :
    Spares check es ∧ e.breaker? ≠ some (checkBreaker check) :=
  ⟨fun e mem => h e (List.mem_append_left _ mem), h e (by simp)⟩

/-! ## What does not concern the check -/

theorem Aside.shows {s s' : Scene} {e : Happening} (aside : Aside check s e s')
    {queued : Option Check} {ahead : List (Nat × Probe × Moment)} {invoked : Option (List Nat)}
    {entry : Option ServiceHealth} (h : s.Shows check queued ahead invoked entry) :
    s'.Shows check queued ahead invoked entry where
  queued := aside.queued.trans h.queued
  ahead := aside.ahead.trans h.ahead
  invoked := aside.invoked.trans h.invoked
  entry := aside.entry.trans h.entry

theorem Stage.aside (stage : Stage s check operation es) {e : Happening}
    (aside : Aside check (s.run es) e (s.run (es ++ [e]))) :
    Stage s check operation (es ++ [e]) := by
  cases stage with
  | waiting shows spared =>
    refine .waiting (aside.shows shows) fun spares => ?_
    exact (aside.spared spares.of_concat.2).trans (spared spares.of_concat.1)
  | ready p probe reached shows spared =>
    refine .ready p probe ?_ (aside.shows shows) fun spares => ?_
    · rw [run_concat]
      exact Nat.le_trans reached (now_le_step _ e)
    · exact (aside.spared spares.of_concat.2).trans (spared spares.of_concat.1)
  | underWay before between p notices underWay =>
    refine .underWay before (between ++ [e]) p notices
      ⟨by simp [underWay.split], underWay.letThrough, underWay.probe, aside.shows underWay.shows,
        aside.present underWay.present, fun spares => ?_⟩
    obtain ⟨first, last⟩ := underWay.spared spares.of_concat.1
    exact ⟨first, (aside.spared spares.of_concat.2).trans last⟩
  | answered before between after split h answered shows spared =>
    refine .answered before between (after ++ [e]) (by simp [split]) h answered
      (aside.shows shows) fun spares => ?_
    obtain ⟨first, second, last⟩ := spared spares.of_concat.1
    exact ⟨first, second, (aside.spared spares.of_concat.2).trans last⟩
  | turnedAway before after split h turnedAway moments dead shows spared =>
    exact .turnedAway before (after ++ [e]) (by simp [split]) h turnedAway moments dead
      (aside.shows shows) fun spares => spared spares.of_concat.1

/-! ## The turn of the check comes -/

/-- Only a check that is waiting has its turn to come. -/
theorem Stage.begun (stage : Stage s check operation es) (orderly : (s.run es).Orderly)
    {next : Check} {rest : List (String × Check)}
    (first : (s.run es).waiting = (check, next) :: rest)
    (step : s.run (es ++ [.proceed]) = (s.run es).beginTurn check next rest) :
    Stage s check operation (es ++ [.proceed]) := by
  have queued : (s.run es).queued check = some next := by
    rw [Scene.queued, first, NameMap.find, if_pos rfl]
  cases stage with
  | waiting shows spared =>
    obtain rfl : next = operation := Option.some.inj (queued.symm.trans shows.queued)
    have ascending := orderly.ascending
    rw [first] at ascending
    refine .ready (Probe.start (s.retry check) (s.run es).now check next) rfl ?_ ?_ ?_
    · rw [step]
      exact Nat.le_refl _
    · rw [step]
      refine ⟨NameMap.find_rest_of_ascending ascending, ?_, shows.invoked, shows.entry⟩
      rw [Scene.ahead, beginTurn, retry_run, Probe.filter_moments]
      exact if_pos rfl
    · intro spares
      rw [step]
      exact spared spares.of_concat.1
  | ready _ _ _ shows _ | answered _ _ _ _ _ _ shows _ | turnedAway _ _ _ _ _ _ _ shows _ =>
    rw [shows.queued] at queued
    cases queued
  | underWay _ _ _ _ underWay =>
    rw [underWay.shows.queued] at queued
    cases queued

/-! ## The breaker of the check is asked -/

theorem ahead_of_own {m : Nat × Probe × Moment} {rest : List (Nat × Probe × Moment)}
    (next : s.pending = m :: rest) (own : m.2.1.name = check) :
    s.ahead check = m :: (s.play m rest).ahead check := by
  rw [ahead, next, List.filter_cons_of_pos (by simpa [isAbout] using own)]
  rfl

theorem hasState_result {r : Round} {p : Probe} {reply : CallReply Finding} {b : Breaker}
    (present : r.registry.get? (checkBreaker p.name) = some b) :
    (r.result p reply).circuitState = some b.circuit.state := by
  have state : r.circuitState p.name = some b.circuit.state := by
    rw [Round.circuitState, present, Option.map_some]
  cases reply <;> exact state

theorem ne_ask_of_mem_sequel {p : Probe} {m : Nat × Probe × Moment} (mem : m ∈ p.sequel) :
    m.2.2 ≠ .ask := by
  rcases List.mem_append.1 mem with mem | mem
  · obtain ⟨n, -, rfl⟩ := List.mem_map.1 mem
    exact nofun
  · rw [List.mem_singleton.1 mem]
    exact nofun

/-- A check that is ready is let through or turned away. -/
theorem Stage.asked {p : Probe} (probe : p = Probe.start (s.retry check) p.begun check operation)
    (reached : p.begun ≤ (s.run es).now) (orderly : (s.run es).Orderly)
    (shows : (s.run es).Shows check none p.moments none none)
    (spared : Spares check es → (s.run es).guard check = s.guard check)
    {m : Nat × Probe × Moment} {rest : List (Nat × Probe × Moment)}
    (next : (s.run es).pending = m :: rest) (own : m.2.1.name = check)
    (step : s.run (es ++ [.proceed]) = (s.run es).play m rest) :
    Stage s check operation (es ++ [.proceed]) := by
  have ahead := (ahead_of_own next own).symm.trans shows.ahead
  rw [p.moments_eq] at ahead
  obtain ⟨rfl, ahead⟩ := List.cons.inj ahead
  obtain rfl : p.name = check := own
  -- The moment is on time, so the breaker is asked at the very instant at which the turn came.
  have onTime : (s.run es).now ≤ p.begun :=
    orderly.onTime _ (next ▸ List.mem_cons_self) (.inl rfl)
  have begun : p.begun = (s.run es).now := Nat.le_antisymm reached onTime
  have round : ((s.run es).play (p.begun, p, .ask) rest).round =
      (s.run es).round.ask (s.run es).monitor.settings.breaker p := by
    change ((s.run es).round.waitUntil p.begun).ask _ p = _
    rw [Round.waitUntil_of_le reached]
  have registry : (s.run (es ++ [.proceed])).round.registry = ((s.run es).answer p.name).2.1 := by
    rw [step, round, Round.registry_ask]
    rfl
  have asks : (s.run es).Asks p.name operation := by
    refine ⟨rest, ?_⟩
    rw [retry_run, ← begun, ← probe]
    exact next
  obtain ⟨b, present⟩ : ∃ b, (s.run (es ++ [.proceed])).guard p.name = some b := by
    rw [guard, registry]
    exact ⟨_, Registry.get?_ask_self _ _ _ _⟩
  cases answer : ((s.run es).answer p.name).1 with
  | admitted permit =>
    have asked := Round.ask_of_admitted answer
    refine .underWay es [] p p.run.notices
      ⟨rfl, ⟨asks, ⟨permit, answer⟩, registry⟩, by rw [← begun, ← probe], ?_,
        by rw [present, Option.isSome_some], fun spares => ⟨spared spares.of_concat.1, rfl⟩⟩
    rw [step]
    refine ⟨shows.queued, ahead, ?_, ?_⟩
    · rw [invoked, round, asked]
      exact NameMap.get?_insert_self _ _ _
    · rw [entry, round, asked]
      exact shows.entry
  | rejected retryIn =>
    obtain ⟨r, asked, invocations⟩ := Round.exists_of_rejected answer
    have recorded : r.registry = (s.run (es ++ [.proceed])).round.registry := by
      rw [step, round, asked, Round.registry_conclude]
    refine .turnedAway es [] rfl (r.result p (.error (.rejected (checkBreaker p.name) retryIn)))
      ⟨asks, ⟨retryIn, answer⟩, registry, rfl, rfl, rfl, b, present,
        hasState_result (recorded ▸ present)⟩
      p.sequel (fun m mem => ne_ask_of_mem_sequel mem) ?_ fun spares => spared spares.of_concat.1
    rw [step]
    refine ⟨shows.queued, ahead, ?_, ?_⟩
    · rw [invoked, round, asked, Round.invocations_conclude, invocations]
      exact shows.invoked
    · rw [entry, round, asked, Round.services_conclude]
      exact NameMap.get?_insert_self _ _ _

/-! ## The attempts of the check -/

section UnderWay

variable {before between : List Happening} {p : Probe} {rest : List (Nat × Probe × Moment)}

/-- A moment of a check that is under way counts. -/
theorem UnderWay.contains {notices : List (Nat × Notice)}
    (h : UnderWay s check operation es before between p notices) :
    (s.run es).round.invocations.contains check = true := by
  rw [NameMap.contains, show (s.run es).round.invocations.get? check = _ from h.shows.invoked,
    Option.isSome_some]

theorem UnderWay.name {notices : List (Nat × Notice)}
    (h : UnderWay s check operation es before between p notices) : p.name = check := by
  rw [h.probe]
  rfl

/-- A check that reports something is still under way. -/
theorem UnderWay.reports {n : Nat × Notice} {notices : List (Nat × Notice)}
    (h : UnderWay s check operation es before between p (n :: notices))
    (next : (s.run es).pending = (n.1, p, .report n.2) :: rest)
    (step : s.run (es ++ [.proceed]) = (s.run es).play (n.1, p, .report n.2) rest) :
    UnderWay s check operation (es ++ [.proceed]) before (between ++ [.proceed]) p notices := by
  obtain rfl := h.name
  have ahead := (ahead_of_own next rfl).symm.trans h.shows.ahead
  have round : (s.run (es ++ [.proceed])).round =
      { (s.run es).round.waitUntil n.1 with
        notices := (s.run es).round.notices ++ [n.2] } := by
    rw [step]
    exact if_pos h.contains
  have guard : (s.run (es ++ [.proceed])).guard p.name = (s.run es).guard p.name := by
    rw [Scene.guard, round]
    rfl
  refine ⟨by simp [h.split], h.letThrough, h.probe, ⟨?_, ?_, ?_, ?_⟩, ?_, ?_⟩
  · rw [step]
    exact h.shows.queued
  · rw [step]
    exact (List.cons.inj ahead).2
  · rw [invoked, round]
    exact h.shows.invoked
  · rw [entry, round]
    exact h.shows.entry
  · rw [guard]
    exact h.present
  · rw [guard]
    exact fun spares => h.spared spares.of_concat.1

theorem tells_result (r : Round) (p : Probe) (reply : Reply Finding) :
    (r.result p (CallReply.ofReply reply)).Tells reply (r.clock.now - p.begun) := by
  cases reply <;> exact ⟨rfl, rfl, rfl⟩

/-- A check under way that has no more to report settles. -/
theorem UnderWay.settles (h : UnderWay s check operation es before between p [])
    (orderly : (s.run es).Orderly)
    (next : (s.run es).pending = (p.run.finished, p, .settle) :: rest)
    (step : s.run (es ++ [.proceed]) = (s.run es).play (p.run.finished, p, .settle) rest) :
    Stage s check operation (es ++ [.proceed]) := by
  obtain rfl := h.name
  have ahead := (ahead_of_own next rfl).symm.trans h.shows.ahead
  have run : s.attempts p.name operation before = p.run := by
    rw [h.probe]
    rfl
  have reply : p.run.reply = (operation.script (p.run.invocations.length - 1)).reply := by
    rw [← run]
    exact s.reply_attempts p.name operation before
  have begun : p.begun = (s.run before).now := by
    rw [h.probe]
    rfl
  have onTime : (s.run es).now ≤ p.run.finished :=
    orderly.onTime _ (next ▸ List.mem_cons_self) (.inr h.contains)
  obtain ⟨r, settled, registry, clock, invocations⟩ :=
    ((s.run es).round.waitUntil p.run.finished).exists_of_settle p
  have now : r.clock.now = p.run.finished := by
    rw [clock]
    exact Nat.max_eq_right onTime
  have round : (s.run (es ++ [.proceed])).round =
      r.conclude p (CallReply.ofReply p.run.reply) := by
    rw [step, ← settled]
    exact if_pos h.contains
  have ended : (s.run (es ++ [.proceed])).now = p.run.finished := by
    rw [Scene.now, round, Round.clock_conclude, now]
  have recorded : (s.run (es ++ [.proceed])).round.registry =
      ((s.run es).round.registry.settle p.run.finished (checkBreaker p.name)
        (CallReply.ofReply p.run.reply)).1 := by
    rw [round, Round.registry_conclude, registry, Round.ending, ← clock, now]
    rfl
  obtain ⟨b, guard⟩ : ∃ b, (s.run (es ++ [.proceed])).guard p.name = some b := by
    obtain ⟨b, there⟩ := Option.isSome_iff_exists.1 h.present
    rw [Scene.guard, recorded]
    exact ⟨_, Registry.get?_settle_self there _ _⟩
  have state : r.registry.get? (checkBreaker p.name) = some b := by
    rw [← guard, Scene.guard, round, Round.registry_conclude]
  have tells := tells_result r p p.run.reply
  have settles : (s.run es).Settles p.name operation (s.run before).now := by
    refine ⟨rest, ?_⟩
    rw [retry_run, ← h.probe]
    exact next
  obtain rfl := h.split
  have split : before ++ .proceed :: between ++ [.proceed] =
      before ++ .proceed :: between ++ .proceed :: [] := rfl
  refine .answered before between [] split (r.result p (CallReply.ofReply p.run.reply))
    ⟨h.letThrough, settles, by rw [ended, run], by rw [recorded, run], ?_,
      b, guard, hasState_result state⟩ ⟨?_, ?_, ?_, ?_⟩ ?_
  · rw [run, ← reply, ended, ← now, ← begun]
    exact tells
  · rw [step]
    exact h.shows.queued
  · rw [step]
    exact (List.cons.inj ahead).2
  · rw [Scene.invoked, round, Round.invocations_conclude, invocations, run]
    exact h.shows.invoked
  · rw [Scene.entry, round, Round.services_conclude]
    exact NameMap.get?_insert_self _ _ _
  · intro spares
    obtain ⟨first, last⟩ := h.spared spares.of_concat.1
    exact ⟨first, last, rfl⟩

end UnderWay

/-! ## A moment of the check -/

/-- Nothing comes of what is ahead of a check that was turned away. -/
theorem shows_of_dead {m : Nat × Probe × Moment} {rest moments : List (Nat × Probe × Moment)}
    {entry : Option ServiceHealth}
    (shows : (s.run es).Shows check none (m :: moments) none entry)
    (next : (s.run es).pending = m :: rest) (own : m.2.1.name = check) (dead : m.2.2 ≠ .ask) :
    ((s.run es).play m rest).Shows check none moments none entry := by
  have ahead := (ahead_of_own next own).symm.trans shows.ahead
  have round : ((s.run es).play m rest).round = (s.run es).round := by
    refine ((s.run es).round.played_step _ m).eq_of_not_live fun live => ?_
    have contains := live.resolve_left dead
    rw [own, NameMap.contains,
      show (s.run es).round.invocations.get? check = none from shows.invoked] at contains
    cases contains
  refine ⟨shows.queued, (List.cons.inj ahead).2, ?_, ?_⟩
  · rw [invoked, round]
    exact shows.invoked
  · rw [Scene.entry, round]
    exact shows.entry

/-- A moment of a check takes it to its next stage. -/
theorem Stage.own (stage : Stage s check operation es) (orderly : (s.run es).Orderly)
    {m : Nat × Probe × Moment} {rest : List (Nat × Probe × Moment)}
    (next : (s.run es).pending = m :: rest) (own : m.2.1.name = check)
    (step : s.run (es ++ [.proceed]) = (s.run es).play m rest) :
    Stage s check operation (es ++ [.proceed]) := by
  have ahead := ahead_of_own next own
  cases stage with
  | waiting shows _ =>
    rw [shows.ahead] at ahead
    cases ahead
  | ready p probe reached shows spared =>
    exact .asked probe reached orderly shows spared next own step
  | underWay before between p notices underWay =>
    rw [underWay.shows.ahead] at ahead
    cases notices with
    | nil =>
      obtain ⟨rfl, -⟩ := List.cons.inj ahead
      exact underWay.settles orderly next step
    | cons n notices =>
      obtain ⟨rfl, -⟩ := List.cons.inj ahead
      exact .underWay before (between ++ [.proceed]) p notices (underWay.reports next step)
  | answered before between after split h answered shows _ =>
    rw [shows.ahead] at ahead
    cases ahead
  | turnedAway before after split h turnedAway moments dead shows spared =>
    rw [shows.ahead] at ahead
    subst ahead
    refine .turnedAway before (after ++ [.proceed]) (by simp [split]) h turnedAway _
      (fun m mem => dead m (List.mem_cons_of_mem _ mem)) ?_
      fun spares => spared spares.of_concat.1
    rw [step]
    exact shows_of_dead shows next own (dead m List.mem_cons_self)

/-! ## Runs -/

theorem Stage.step (stage : Stage s check operation es) (orderly : (s.run es).Orderly)
    (e : Happening) : Stage s check operation (es ++ [e]) := by
  have turn := (s.run es).step_cases check e
  have step := s.run_concat es e
  rw [← step] at turn
  generalize eq : s.run (es ++ [e]) = s' at turn
  rw [eq] at step
  cases turn with
  | aside aside => exact stage.aside (eq ▸ aside)
  | begun idle next => exact stage.begun orderly next eq
  | own next own => exact stage.own orderly next own eq

end Course

/-- Nothing that happens concerns a check that does not run. -/
theorem aside_of_absent {s : Scene} {check : String} {invoked : Option (List Nat)}
    {entry : Option ServiceHealth} (shows : s.Shows check none [] invoked entry)
    (e : Happening) : Aside check s e (s.step e) := by
  have turn := s.step_cases check e
  generalize s.step e = s' at turn
  cases turn with
  | aside aside => exact aside
  | begun idle next =>
    have queued := shows.queued
    rw [Scene.queued, next, NameMap.find, if_pos rfl] at queued
    cases queued
  | own next own =>
    have ahead := shows.ahead
    rw [ahead_of_own next own] at ahead
    cases ahead

/-! ## The end -/

/-- The result of a check tells what became of it: its breaker turned it away and it was not
invoked, or it was let through, its attempts were made, and it settled. -/
def Reports (s : Scene) (es : List Happening) (check : String) (operation : Check)
    (h : ServiceHealth) : Prop :=
  (∃ before after, es = before ++ .proceed :: after ∧ s.TurnedAway check operation before h ∧
      (s.run es).invoked check = none) ∨
    ∃ before between after, es = before ++ .proceed :: between ++ .proceed :: after ∧
      s.Answered check operation before between h ∧
      (s.run es).invoked check = some (s.attempts check operation before).invocations

section Runs

variable (m : Monitor) (clock : Clock) (registry : Registry) (draw : String → Nat → Float)

/-- At the beginning a check is waiting for its turn or ready. -/
theorem stage_start {check : String} {operation : Check}
    (registered : m.checks.get? check = some operation) :
    Stage (start m clock registry draw) check operation [] := by
  cases concurrent : m.settings.concurrent with
  | false =>
    refine .waiting ⟨?_, ?_, rfl, rfl⟩ fun _ => rfl
    · simp only [run_nil, queued, start, concurrent, Bool.false_eq_true, if_false]
      exact registered
    · simp [ahead, start, concurrent]
  | true =>
    have entries := NameMap.mem_of_find registered
    have names : (m.checks.entries.map fun e =>
        Probe.start (m.retry (draw e.1)) clock.now e.1 e.2).map Probe.name = m.checks.names := by
      rw [List.map_map]
      rfl
    refine .ready (Probe.start (m.retry (draw check)) clock.now check operation) rfl
      (Nat.le_refl _) ⟨?_, ?_, rfl, rfl⟩ fun _ => rfl
    · simp [queued, start, concurrent, NameMap.find]
    · simp only [run_nil, ahead, start, concurrent, if_true]
      exact filter_timetable (names ▸ m.checks.nodup_names) (Probe.inOrder_start _ _ _ _)
        (List.mem_map_of_mem entries)

/-- Whatever else happens, a check is at some stage of its course. -/
theorem stage_run {check : String} {operation : Check}
    (registered : m.checks.get? check = some operation) (es : List Happening) :
    Stage (start m clock registry draw) check operation es := by
  induction es using List.reverseRecOn with
  | nil => exact stage_start m clock registry draw registered
  | append_singleton es e ih => exact ih.step (orderly_run m clock registry draw es) e

/-- A round has nothing to do with a check that is not registered when it begins. -/
theorem shows_run_of_absent {check : String} (absent : m.checks.get? check = none)
    (es : List Happening) :
    ((start m clock registry draw).run es).Shows check none [] none none := by
  induction es using List.reverseRecOn with
  | nil =>
    have unnamed : check ∉ m.checks.names := NameMap.find_eq_none_iff.1 absent
    cases concurrent : m.settings.concurrent with
    | false =>
      refine ⟨?_, ?_, rfl, rfl⟩
      · simp only [run_nil, queued, start, concurrent, Bool.false_eq_true, if_false]
        exact absent
      · simp [ahead, start, concurrent]
    | true =>
      refine ⟨?_, ?_, rfl, rfl⟩
      · simp [queued, start, concurrent, NameMap.find]
      · simp only [run_nil, ahead, start, concurrent, if_true]
        refine filter_timetable_of_not_mem ?_
        rw [List.map_map]
        exact unnamed
  | append_singleton es e ih =>
    rw [run_concat]
    exact (aside_of_absent ih e).shows ih

end Runs

/-- When the round is over, every check has settled or has been turned away. -/
theorem Stage.of_isOver {s : Scene} {check : String} {operation : Check} {es : List Happening}
    (stage : Stage s check operation es) (isOver : (s.run es).IsOver) :
    (∃ before between after h, es = before ++ .proceed :: between ++ .proceed :: after ∧
      s.Answered check operation before between h ∧
      (s.run es).Shows check none [] (some (s.attempts check operation before).invocations)
        (some h) ∧
      (Spares check es →
        (s.run before).guard check = s.guard check ∧
          (s.run (before ++ .proceed :: between)).guard check =
            (s.run (before ++ [.proceed])).guard check ∧
          (s.run es).guard check =
            (s.run (before ++ .proceed :: between ++ [.proceed])).guard check)) ∨
    ∃ before after h, es = before ++ .proceed :: after ∧
      s.TurnedAway check operation before h ∧ (s.run es).Shows check none [] none (some h) ∧
      (Spares check es → (s.run before).guard check = s.guard check) := by
  have ahead : (s.run es).ahead check = [] := by
    rw [Scene.ahead, isOver.1]
    rfl
  cases stage with
  | waiting shows _ =>
    have queued := shows.queued
    rw [Scene.queued, isOver.2] at queued
    cases queued
  | ready p _ _ shows _ =>
    rw [shows.ahead] at ahead
    cases ahead
  | underWay before between p notices underWay =>
    rw [underWay.shows.ahead] at ahead
    cases notices <;> cases ahead
  | answered before between after split h answered shows spared =>
    exact .inl ⟨before, between, after, h, split, answered, shows, spared⟩
  | turnedAway before after split h turnedAway moments _ shows spared =>
    obtain rfl : [] = moments := ahead.symm.trans shows.ahead
    exact .inr ⟨before, after, h, split, turnedAway, shows, spared⟩

/-- When the round is over, the result of every check tells what became of it. -/
theorem Stage.reports {s : Scene} {check : String} {operation : Check} {es : List Happening}
    (stage : Stage s check operation es) (isOver : (s.run es).IsOver) :
    ∃ h, (s.run es).entry check = some h ∧ s.Reports es check operation h := by
  obtain ⟨before, between, after, h, split, answered, shows, -⟩ |
    ⟨before, after, h, split, turnedAway, shows, -⟩ := stage.of_isOver isOver
  · exact ⟨h, shows.entry, .inr ⟨before, between, after, split, answered, shows.invoked⟩⟩
  · exact ⟨h, shows.entry, .inl ⟨before, after, split, turnedAway, shows.invoked⟩⟩

end Scene

end Safeguard
