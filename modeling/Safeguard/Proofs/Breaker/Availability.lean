import Safeguard.Proofs.Breaker.Reports
import Safeguard.Proofs.Breaker.SingleTrial

/-!
# What a report promises

The report of a breaker says whether it is available, and a call that is turned away is told how
long the wait still is. Both are read off the circuit apart from the decision that a call meets, and
agree with it at every instant: a call is turned away exactly if the breaker is reported as not
available, or half open with the place of the trial taken (`Circuit.rejects_iff`). The time that a
call is told is exact: a moment before its end calls are turned away and are told what is left of
it, and from its end on a call is let through as the trial (`Circuit.ask_after`).

The circuit goes by the place of the trial. A place that is taken is that of a trial on its way, but
a trial of an earlier period that is dropped frees the place of the one that is running, and then a
call is let through beside that one (`Traffic.admitted_beside_trial`). As long as this does not
happen the place is taken whenever a trial is running, and a call that finds the breaker half open
is turned away exactly if there is a trial of the present period
(`Traffic.admitsAsReported_run_iff`).
-/

namespace Safeguard

namespace Circuit

variable {c : Circuit} {now wait : Nat}

theorem remaining?_eq_some_iff :
    c.remaining? now = some wait ↔ ∃ next, c.nextAttempt = some next ∧ now < next ∧
      next - now = wait := by
  simp only [remaining?, Option.map_eq_some_iff, Option.filter_eq_some_iff, decide_eq_true_eq,
    and_assoc]

theorem remaining?_eq_none_iff :
    c.remaining? now = none ↔ ∀ next, c.nextAttempt = some next → next ≤ now := by
  simp only [remaining?, Option.map_eq_none_iff, Option.filter_eq_none_iff, decide_eq_true_eq,
    not_lt]

/-- A circuit is reported as not available exactly while it is open and its wait goes on. -/
theorem isAvailable_eq_false_iff :
    c.isAvailable now = false ↔ c.state = .opened ∧ ∃ wait, c.remaining? now = some wait := by
  rw [← Option.isSome_iff_exists, ← Option.ne_none_iff_isSome, ne_eq, remaining?_eq_none_iff]
  by_cases state : c.state = .opened
  · cases wait : c.nextAttempt with
    | none => simp [isAvailable, state, wait]
    | some next => simp [isAvailable, state, wait]
  · simp [isAvailable, state]

/-- A call is turned away exactly if the circuit is reported as not available, or is half open with
the place of the trial taken. -/
theorem rejects_iff :
    (∃ retryIn, (c.ask now).1 = .rejected retryIn) ↔
      c.isAvailable now = false ∨ c.state = .halfOpen ∧ c.trialOut = true := by
  rw [isAvailable_eq_false_iff]
  obtain ⟨state, ask⟩ | ⟨state, ended, ask⟩ | ⟨state, free, ask⟩ | ⟨state, wait, left, ask⟩ |
    ⟨state, taken, ask⟩ := c.ask_cases now
  · simp [ask, state]
  · simp [ask, state, ended]
  · simp [ask, state, free]
  · simp [ask, state, left]
  · simp [ask, state, taken]

/-- The time that a call is told by an open circuit is exact. -/
theorem ask_after (state : c.state = .opened) (left : c.remaining? now = some wait) :
    0 < wait ∧
      (∀ d, d < wait → c.ask (now + d) = (.rejected (some (wait - d)), c)) ∧
      ∀ d, wait ≤ d → c.ask (now + d) = (.admitted ⟨true⟩,
        { c with state := .halfOpen, nextAttempt := none, trialOut := true }) := by
  obtain ⟨next, eq, lt, rfl⟩ := remaining?_eq_some_iff.1 left
  refine ⟨by omega, ?_, ?_⟩
  · intro d less
    rw [ask_of_waiting state eq (by omega : now + d < next)]
    have same : next - (now + d) = next - now - d := by omega
    rw [same]
  · intro d le
    have ended : c.remaining? (now + d) = none := by
      rw [remaining?_eq_none_iff]
      intro next' eq'
      cases eq.symm.trans eq'
      omega
    simp only [ask, state, ended]

/-- A call that is turned away is told the time that is left if the circuit is open, and nothing if
it is half open. -/
theorem retryIn_of_rejected {retryIn : Option Nat} (rejected : (c.ask now).1 = .rejected retryIn) :
    (c.state = .opened ∧ ∃ wait, c.remaining? now = some wait ∧ retryIn = some wait) ∨
      c.state = .halfOpen ∧ retryIn = none := by
  obtain ⟨-, ask⟩ | ⟨-, -, ask⟩ | ⟨-, -, ask⟩ | ⟨state, wait, left, ask⟩ | ⟨state, -, ask⟩ :=
    c.ask_cases now
  · rw [ask] at rejected
    cases rejected
  · rw [ask] at rejected
    cases rejected
  · rw [ask] at rejected
    cases rejected
  · rw [ask] at rejected
    cases rejected
    exact .inl ⟨state, wait, left, rfl⟩
  · rw [ask] at rejected
    cases rejected
    exact .inr ⟨state, rfl⟩

end Circuit

/-! ## Whole calls -/

namespace Breaker

variable {α : Type} {b : Breaker} {now : Nat}

/-- An operation that is given up at a limit was invoked before. -/
theorem invocations_limited (name : String) (now : Nat) (limit : Option Nat) (o : Outcome α) :
    (limited name now limit (o.run now)).invocations = [now] := by
  cases limit with
  | none => rfl
  | some d =>
    have le : now ≤ due now d := Nat.le_trans (Nat.le_add_right now d) (le_due now d)
    show ((o.run now).within (due now d)).invocations = [now]
    unfold Run.within
    split
    · rfl
    · simp only [Outcome.run, List.filter_cons, decide_eq_true le, if_true, List.filter_nil]

/-- The end of an operation is no rejection. -/
theorem reply_limited_ne (name : String) (now : Nat) (limit : Option Nat) (run : Run (Reply α))
    (dependency : String) (retryIn : Option Nat) :
    (limited name now limit run).reply ≠ .error (.rejected dependency retryIn) := by
  have passed_on (reply : Reply α) :
      CallReply.ofReply reply ≠ .error (.rejected dependency retryIn) := by
    cases reply with
    | ok value => nofun
    | error error => simp [CallReply.ofReply]
  cases limit with
  | none => exact passed_on run.reply
  | some d =>
    simp only [limited, Run.map]
    cases (run.within (due now d)).reply with
    | some reply => exact passed_on reply
    | none => simp

/-- What comes of a call that is let through is what comes of its operation. -/
theorem reply_perform_of_admitted {permit : Permit} (admitted : (b.ask now).1 = .admitted permit)
    (limit : Option Nat) (operation : Operation (Reply α)) :
    (b.perform now limit operation).1.reply =
        (limited (b.ask now).2.1.name now limit (operation now)).reply ∧
      (b.perform now limit operation).1.invocations =
        (limited (b.ask now).2.1.name now limit (operation now)).invocations := by
  rcases eq : b.ask now with ⟨admission, b', notices⟩
  rw [eq] at admitted
  cases admitted
  simp only [perform, eq, and_self]

/-- A call that is let through invokes its operation once. -/
theorem invocations_perform {permit : Permit} (admitted : (b.ask now).1 = .admitted permit)
    (limit : Option Nat) (o : Outcome α) : (b.perform now limit o.run).1.invocations = [now] := by
  rw [(reply_perform_of_admitted admitted limit o.run).2]
  exact invocations_limited _ now limit o

/-- A call that is turned away leaves the breaker as it is and does not invoke its operation. -/
theorem untouched_of_rejected {retryIn : Option Nat} (rejected : (b.ask now).1 = .rejected retryIn)
    (limit : Option Nat) (operation : Operation (Reply α)) :
    (b.perform now limit operation).2 = b ∧ (b.perform now limit operation).1.invocations = [] := by
  have same : (b.circuit.ask now).2 = b.circuit :=
    Circuit.ask_of_rejected (Prod.ext rejected rfl)
  have kept : (b.ask now).2.1 = b := by
    show { b with circuit := (b.circuit.ask now).2 } = b
    rw [same]
  rw [perform_of_rejected rejected, kept]
  exact ⟨rfl, rfl⟩

/-- The reply of a call tells whether the breaker turned it away. -/
theorem reply_perform_eq_rejected_iff (limit : Option Nat) (operation : Operation (Reply α))
    (retryIn : Option Nat) :
    (b.perform now limit operation).1.reply = .error (.rejected b.name retryIn) ↔
      (b.ask now).1 = .rejected retryIn := by
  cases answer : (b.ask now).1 with
  | admitted permit =>
    rw [(reply_perform_of_admitted answer limit operation).1]
    refine iff_of_false (reply_limited_ne _ now limit _ b.name retryIn) ?_
    simp
  | rejected told =>
    rw [perform_of_rejected answer]
    simp [rejection]

end Breaker

/-! ## Runs -/

namespace Traffic

variable {α : Type}

/-- A call that arrives now is turned away exactly if the breaker is reported as not available, or
half open with a trial of the present period on its way. -/
def AdmitsAsReported (t : Traffic) : Prop :=
  (∃ retryIn, (t.breaker.ask t.now).1 = .rejected retryIn) ↔
    (t.breaker.status t.now).isAvailable = false ∨ t.state = .halfOpen ∧ ∃ i, t.OnTrial i

/-- While a trial is running, one of an earlier period is dropped. -/
def DropsStale (t : Traffic) (moves : List (Move α)) : Prop :=
  ∃ before stale n p, before ++ [.drop stale] <+: moves ∧ (t.run before).Running n ∧
    (t.run before).calls stale = some p ∧ p.permit.trial = true ∧
    p.period < (t.run before).periods

/-- A run that gives the place away with a call that arrives has dropped a trial before. -/
theorem GivesPlaceAway.dropsStale {t : Traffic} {moves : List (Move α)} {limit : Option Nat}
    (away : t.GivesPlaceAway (moves ++ [.arrive limit])) : t.DropsStale moves := by
  obtain ⟨before, stale, between, limit', after, n, p, split, running, out, trial, earlier, -⟩ :=
    away
  have within : before ++ [.drop stale] <+: moves ++ [.arrive limit] :=
    ⟨between ++ .arrive limit' :: after, by simp [split]⟩
  rcases List.prefix_concat_iff.1 within with whole | within
  · cases List.append_inj_right' whole rfl
  · exact ⟨before, stale, n, p, within, running, out, trial, earlier⟩

/-- A call is turned away exactly as reported while the place of the trial is taken exactly if a
trial is running. -/
theorem AdmitsAsReported.of_taken_iff {t : Traffic}
    (taken : t.state = .halfOpen → (t.circuit.trialOut = true ↔ ∃ i, t.OnTrial i)) :
    t.AdmitsAsReported :=
  Circuit.rejects_iff.trans (or_congr_right (and_congr_right taken))

/-- A trial of an earlier period that is dropped while another trial is running leaves the place
free, and the next call is let through. -/
theorem not_admitsAsReported_of_drop {t : Traffic} {n stale : Nat} {p : Passage}
    (onTrial : t.OnTrial n) (running : t.Running n) (out : t.calls stale = some p)
    (trial : p.permit.trial = true) (earlier : p.period < t.periods) :
    ¬ (t.giveUp stale p.permit).AdmitsAsReported := by
  intro reported
  have state : (t.giveUp stale p.permit).state = .halfOpen :=
    (state_giveUp ..).trans running.1
  have free : (t.giveUp stale p.permit).circuit.trialOut = false := by
    rw [circuit_giveUp, Circuit.abandon_of_trial trial running.1]
  have still : (t.giveUp stale p.permit).OnTrial n := by
    obtain ⟨q, there, q_trial, present⟩ := onTrial
    refine ⟨q, (calls_giveUp_eq_some_iff ..).2 ⟨?_, there⟩, q_trial, ?_⟩
    · rintro rfl
      cases there.symm.trans out
      omega
    · rwa [periods_giveUp]
  rcases Circuit.rejects_iff.1 (reported.2 (.inr ⟨state, n, still⟩)) with unavailable | ⟨-, taken⟩
  · cases state.symm.trans (Circuit.isAvailable_eq_false_iff.1 unavailable).1
  · cases free.symm.trans taken

section Runs

variable (name : String) (policy : BreakerPolicy) (clock : Clock)

/-- As long as no trial of an earlier period is dropped while another is running, the place of the
trial is taken exactly while there is a trial of the present period. -/
theorem taken_iff_onTrial {moves : List (Move α)}
    (kept : ¬ (start name policy clock).DropsStale moves)
    (state : ((start name policy clock).run moves).state = .halfOpen) :
    ((start name policy clock).run moves).circuit.trialOut = true ↔
      ∃ i, ((start name policy clock).run moves).OnTrial i := by
  obtain ⟨numbered, accounted⟩ := accounted_run name policy clock moves
  have away (limit : Option Nat) :
      ¬ (start name policy clock).GivesPlaceAway (moves ++ [.arrive limit]) :=
    fun away => kept away.dropsStale
  have single := onlyNewest_run name policy clock moves fun gone => away none (gone.append _)
  constructor
  · intro taken
    obtain ⟨n, p, newest, out⟩ := accounted.newest_out taken
    have running : ((start name policy clock).run moves).Running n := ⟨state, newest, p, out⟩
    exact ⟨n, running.onTrial numbered (newestIsPresent_run name policy clock moves)⟩
  · rintro ⟨i, p, out, trial, present⟩
    by_contra free
    rw [Bool.not_eq_true] at free
    have newest := single moves List.prefix_rfl state i ⟨p, out, trial, present⟩
    exact away none
      (givesPlaceAway_of_free name policy clock single ⟨state, newest, p, out⟩ free none)

/-- Calls are turned away as reported throughout a run exactly if in it no trial of an earlier
period is dropped while another is running. -/
theorem admitsAsReported_run_iff (moves : List (Move α)) :
    (∀ before, before <+: moves → ((start name policy clock).run before).AdmitsAsReported) ↔
      ¬ (start name policy clock).DropsStale moves := by
  constructor
  · rintro reported ⟨before, stale, n, p, within, running, out, trial, earlier⟩
    have numbered := (accounted_run name policy clock before).1
    have onTrial := running.onTrial numbered (newestIsPresent_run name policy clock before)
    have after := reported _ within
    rw [run_concat, step_drop out] at after
    exact not_admitsAsReported_of_drop onTrial running out trial earlier after
  · intro kept before within
    refine .of_taken_iff (taken_iff_onTrial name policy clock ?_)
    rintro ⟨earlier, stale, n, p, inside, drops⟩
    exact kept ⟨earlier, stale, n, p, inside.trans within, drops⟩

/-- **When admission is as reported.** Throughout a run a call that arrives is turned away exactly
if the breaker is reported as not available, or half open with a trial of the present period on its
way, if and only if in the run no trial of an earlier period is dropped while another is running.

Whatever happens in the run, a call is turned away exactly if the breaker is reported as not
available, or half open with the place of the trial taken, which is then that of the newest trial,
still on its way. A call that is turned away leaves the breaker as it is and does not invoke its
operation. If the breaker is half open it is told no time; if it is open it is told a time that is
not over, and as long as nothing else happens a call before its end is turned away with what is left
of it, and a call after it is let through as the trial. A call that is not turned away invokes its
operation once, when it arrives. -/
theorem admission_as_reported (moves : List (Move α)) (limit : Option Nat) (o : Outcome α) :
    let t := (start name policy clock).run moves
    let report := t.breaker.status t.now
    let call (now : Nat) := t.breaker.perform now limit o.run
    ((∀ before, before <+: moves → ((start name policy clock).run before).AdmitsAsReported) ↔
        ¬ (start name policy clock).DropsStale moves) ∧
      (∀ now retryIn, (call now).1.reply = .error (.rejected name retryIn) ↔
        (t.breaker.ask now).1 = .rejected retryIn) ∧
      ((∃ retryIn, (call t.now).1.reply = .error (.rejected name retryIn)) ↔
        report.isAvailable = false ∨ report.state = .halfOpen ∧ t.circuit.trialOut = true) ∧
      (t.circuit.trialOut = true → ∃ n p, t.newest = some n ∧ t.calls n = some p) ∧
      (∀ retryIn, (call t.now).1.reply = .error (.rejected name retryIn) →
        (call t.now).2 = t.breaker ∧ (call t.now).1.invocations = [] ∧
          (report.state = .halfOpen → retryIn = none) ∧
          (report.state = .opened → ∃ wait, retryIn = some wait ∧ 0 < wait ∧
            (∀ d, d < wait →
              (call (t.now + d)).1.reply = .error (.rejected name (some (wait - d)))) ∧
            ∀ d, wait ≤ d →
              (t.breaker.ask (t.now + d)).1 = .admitted ⟨true⟩ ∧
                (t.breaker.ask (t.now + d)).2.1.circuit.state = .halfOpen ∧
                (call (t.now + d)).1.invocations = [t.now + d])) ∧
      ((∀ retryIn, (call t.now).1.reply ≠ .error (.rejected name retryIn)) →
        (call t.now).1.invocations = [t.now]) := by
  intro t report call
  have named : t.breaker.name = name := (sameGuard_run (start name policy clock) moves).1
  have rejected (now : Nat) (retryIn : Option Nat) :
      (call now).1.reply = .error (.rejected name retryIn) ↔
        (t.circuit.ask now).1 = .rejected retryIn := by
    rw [← named]
    exact Breaker.reply_perform_eq_rejected_iff limit o.run retryIn
  refine ⟨admitsAsReported_run_iff name policy clock moves, rejected, ?_,
    (accounted_run name policy clock moves).2.newest_out, ?_, ?_⟩
  · simp only [rejected]
    exact Circuit.rejects_iff
  · intro retryIn turned_away
    rw [rejected] at turned_away
    obtain ⟨kept, uninvoked⟩ :=
      Breaker.untouched_of_rejected (b := t.breaker) turned_away limit o.run
    refine ⟨kept, uninvoked, ?_, ?_⟩
    · intro state
      obtain ⟨opened, -⟩ | ⟨-, silent⟩ := Circuit.retryIn_of_rejected turned_away
      · cases opened.symm.trans state
      · exact silent
    · intro state
      obtain ⟨-, wait, left, told⟩ | ⟨halfOpen, -⟩ := Circuit.retryIn_of_rejected turned_away
      · obtain ⟨positive, before, after⟩ := Circuit.ask_after state left
        refine ⟨wait, told, positive, ?_, ?_⟩
        · intro d less
          rw [rejected, before d less]
        · intro d le
          have admitted : (t.circuit.ask (t.now + d)).1 = .admitted ⟨true⟩ := by rw [after d le]
          refine ⟨admitted, ?_, Breaker.invocations_perform admitted limit o⟩
          rw [Breaker.circuit_ask, after d le]
      · cases halfOpen.symm.trans state
  · intro let_through
    cases answer : (t.circuit.ask t.now).1 with
    | admitted permit => exact Breaker.invocations_perform answer limit o
    | rejected retryIn => exact absurd ((rejected t.now retryIn).2 answer) (let_through retryIn)

end Runs

/-- The breaker has been forced open 30 of 100 instants ago. It is reported as not available, a call
is told 70, and 70 instants later the next call is the trial. -/
theorem admission_as_reported_of_forced_open :
    let t := (start "db" { failureThreshold := 1, recoveryTimeout := 100 } { wallStart := 0 }).run
      ([.forceOpen, .wait 30] : List (Move Unit))
    let call (now : Nat) := t.breaker.perform now none
      ({ reply := .ok () } : Outcome Unit).run
    (t.breaker.status t.now).isAvailable = false ∧
      (call t.now).1.reply = .error (.rejected "db" (some 70)) ∧
      (call (t.now + 69)).1.reply = .error (.rejected "db" (some 1)) ∧
      (t.breaker.ask (t.now + 70)).1 = .admitted ⟨true⟩ ∧
      (call (t.now + 70)).1.invocations = [t.now + 70] := by
  intro t call
  obtain ⟨-, -, -, -, turned_away, -⟩ := admission_as_reported "db"
    { failureThreshold := 1, recoveryTimeout := 100 } { wallStart := 0 }
    ([.forceOpen, .wait 30] : List (Move Unit)) none { reply := .ok () }
  have told : (call t.now).1.reply = .error (.rejected "db" (some 70)) := by rfl
  have unavailable : (t.breaker.status t.now).isAvailable = false := by decide
  obtain ⟨-, -, -, opened⟩ := turned_away (some 70) told
  obtain ⟨wait, same, -, before, after⟩ := opened rfl
  cases same
  obtain ⟨admitted, -, invoked⟩ := after 70 (Nat.le_refl 70)
  exact ⟨unavailable, told, before 69 (by decide), admitted, invoked⟩

/-- A trial is running. One of an earlier period, cut short by a forced opening, is dropped, and a
call is let through though the trial is still on its way. -/
theorem admitted_beside_trial :
    let t := (start "db" { failureThreshold := 1, recoveryTimeout := 100 } { wallStart := 0 }).run
      ([.forceOpen, .wait 100, .arrive none, .forceOpen, .wait 100, .arrive none, .drop 0] :
        List (Move Unit))
    t.state = .halfOpen ∧ t.OnTrial 1 ∧ (t.breaker.ask t.now).1 = .admitted ⟨true⟩ ∧
      ¬ t.AdmitsAsReported := by
  intro t
  have onTrial : t.OnTrial 1 := ⟨_, rfl, rfl, rfl⟩
  have let_through : (t.breaker.ask t.now).1 = .admitted ⟨true⟩ := rfl
  refine ⟨rfl, onTrial, let_through, fun reported => ?_⟩
  obtain ⟨retryIn, rejected⟩ := reported.2 (.inr ⟨rfl, 1, onTrial⟩)
  cases let_through.symm.trans rejected

end Traffic

end Safeguard
