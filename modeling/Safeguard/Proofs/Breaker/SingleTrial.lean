import Mathlib.Data.List.Induction
import Safeguard.Proofs.Breaker.TrialSlot

/-!
# One trial at a time

A half-open circuit is to have one trial out. The place of the trial has no owner, though: a permit
outlives the half-open period that it was given in, and dropping it frees the place, whoever has
it now. If that happens while a later trial is running, the next call is let through beside it
(`second_trial`).

This is the only way. A run keeps to one trial at a time exactly if in it no trial of an earlier
period is dropped, and followed by an arrival, while a later one runs: a place that is free while
a trial is running was freed by another trial (`exists_drop_of_free`) and stays free (`free_run`).
-/

namespace Safeguard

namespace Traffic

variable {α : Type}

/-- The circuit is half open, and its newest trial `n` is on its way. -/
def Running (t : Traffic) (n : Nat) : Prop :=
  t.state = .halfOpen ∧ t.newest = some n ∧ ∃ p, t.calls n = some p

/-- While the circuit is half open, at most one trial of the present period is on its way. -/
def SingleTrial (t : Traffic) : Prop :=
  t.state = .halfOpen → ∀ i j, t.OnTrial i → t.OnTrial j → i = j

/-- While the circuit is half open, every trial of the present period that is on its way is the
newest one. -/
def OnlyNewest (t : Traffic) : Prop :=
  t.state = .halfOpen → ∀ i, t.OnTrial i → t.newest = some i

/-- While trial `n` is running, a trial of an earlier period is dropped, and a call arrives before
`n` has left. -/
def GivesPlaceAway (t : Traffic) (moves : List (Move α)) : Prop :=
  ∃ before stale between limit after n p,
    moves = before ++ .drop stale :: (between ++ .arrive limit :: after) ∧
      (t.run before).Running n ∧ (t.run before).calls stale = some p ∧
      p.permit.trial = true ∧ p.period < (t.run before).periods ∧
      (t.run (before ++ .drop stale :: between)).Running n

/-! ## The newest trial is one of the present period -/

/-- While the circuit is half open, the newest trial is one of the present period. -/
def NewestIsPresent (t : Traffic) : Prop :=
  t.state = .halfOpen → ∀ n p, t.newest = some n → t.calls n = some p → p.period = t.periods

theorem NewestIsPresent.change {t t' : Traffic} {move : Move α} (h : t.NewestIsPresent)
    (c : Change t move t') : t'.NewestIsPresent := by
  intro state n p newest out
  cases c.of_halfOpen state with
  | tried | retried =>
    rw [newest_letThrough_of_trial _ _ _ rfl] at newest
    cases newest
    rw [calls_letThrough_self] at out
    cases out
    rfl
  | dropped _ halfOpen =>
    rw [calls_giveUp_eq_some_iff] at out
    rw [periods_giveUp]
    exact h halfOpen n p newest out.2
  | kept => exact h state n p newest out

theorem Running.onTrial {t : Traffic} {n : Nat} (h : t.Running n) (numbered : t.Numbered)
    (present : t.NewestIsPresent) : t.OnTrial n := by
  obtain ⟨state, newest, p, out⟩ := h
  exact ⟨p, out, numbered.newest_trial n p newest out, present state n p newest out⟩

/-! ## How the place of a running trial becomes free -/

/-- A place that is free while a trial is running was free before, or another trial has been
dropped. -/
theorem free_before_change {t t' : Traffic} {move : Move α} {n : Nat} (c : Change t move t')
    (running : t'.Running n) (free : t'.circuit.trialOut = false) :
    t.Running n ∧ (t.circuit.trialOut = false ∨ ∃ stale p, move = .drop stale ∧
      t.calls stale = some p ∧ p.permit.trial = true ∧ stale ≠ n) := by
  obtain ⟨state, newest, q, running⟩ := running
  cases c.of_halfOpen state with
  | tried | retried => cases free
  | @dropped call p out halfOpen =>
    rw [calls_giveUp_eq_some_iff] at running
    refine ⟨⟨halfOpen, newest, q, running.2⟩, ?_⟩
    cases trial : p.permit.trial with
    | true => exact .inr ⟨call, p, rfl, out, trial, running.1.symm⟩
    | false =>
      rw [circuit_giveUp, Circuit.abandon_of_not (by simp [trial])] at free
      exact .inl free
  | kept => exact ⟨⟨state, newest, q, running⟩, .inl free⟩

/-- A place that is free while a trial is running was freed by another trial that was dropped
meanwhile. -/
theorem exists_drop_of_free (t : Traffic) (start : t.state ≠ .halfOpen) (moves : List (Move α))
    {n : Nat} (running : (t.run moves).Running n)
    (free : (t.run moves).circuit.trialOut = false) :
    ∃ before stale between p, moves = before ++ .drop stale :: between ∧
      (t.run before).Running n ∧ (t.run before).calls stale = some p ∧
      p.permit.trial = true ∧ stale ≠ n := by
  induction moves using List.reverseRecOn with
  | nil => exact absurd running.1 start
  | append_singleton moves move ih =>
    rw [run_concat] at running free
    obtain ⟨earlier, free | ⟨stale, p, rfl, out, trial, ne⟩⟩ :=
      free_before_change (change_step _ move) running free
    · obtain ⟨before, stale, between, p, rfl, h⟩ := ih earlier free
      exact ⟨before, stale, between ++ [move], p, by simp, h⟩
    · exact ⟨moves, stale, [], p, rfl, earlier, out, trial, ne⟩

/-- A place that is free stays free as long as no newer trial is let through. -/
theorem free_after_change {t t' : Traffic} {move : Move α} {n : Nat} (c : Change t move t')
    (lt : n < t.admitted) (free : t.Running n → t.circuit.trialOut = false)
    (running : t'.Running n) : t'.circuit.trialOut = false := by
  obtain ⟨state, newest, q, out⟩ := running
  cases c.of_halfOpen state with
  | tried | retried =>
    rw [newest_letThrough_of_trial _ _ _ rfl] at newest
    cases newest
    exact absurd lt (Nat.lt_irrefl _)
  | dropped _ halfOpen =>
    rw [calls_giveUp_eq_some_iff] at out
    exact Circuit.trialOut_abandon _ (free ⟨halfOpen, newest, q, out.2⟩)
  | kept => exact free ⟨state, newest, q, out⟩

theorem free_run {t : Traffic} {n : Nat} (lt : n < t.admitted) (free : t.circuit.trialOut = false)
    (moves : List (Move α)) (running : (t.run moves).Running n) :
    (t.run moves).circuit.trialOut = false := by
  have inv := run_induction
    (P := fun t => n < t.admitted ∧ (t.Running n → t.circuit.trialOut = false))
    ⟨lt, fun _ => free⟩ moves
    fun t t' move _ ⟨lt, free⟩ c =>
      ⟨lt.trans_le (admitted_le_change c), free_after_change c lt free⟩
  exact inv.2 running

/-- If the place of a running trial is free, the next call is a second trial beside it. -/
theorem second_trial {t : Traffic} {n : Nat} (running : t.Running n) (lt : n < t.admitted)
    (trial : t.OnTrial n) (free : t.circuit.trialOut = false) (limit : Option Nat) :
    ¬ (t.step (.arrive limit : Move α)).SingleTrial := by
  have c := change_step t (.arrive limit : Move α)
  generalize t.step (.arrive limit : Move α) = t' at c
  cases c with
  | passed _ closed => exact absurd (closed.symm.trans running.1) (by decide)
  | tried _ opened => exact absurd (opened.symm.trans running.1) (by decide)
  | retried =>
    intro single
    obtain ⟨p, out, trial, period⟩ := trial
    have same := single running.1 n t.admitted
      ⟨p, (calls_letThrough_of_ne (t.turn _ _) _ _ lt.ne).trans out, trial,
        period.trans (t.periods_turn _ (t.breaker.ask t.now).2.2 fun _ => running.1).symm⟩
      ⟨_, calls_letThrough_self .., rfl, rfl⟩
    exact lt.ne same
  | refused _ _ rejected =>
    have state : t.circuit.state = .halfOpen := running.1
    simp [Circuit.ask, state, free] at rejected
  | succeeded _ outcome | failed _ _ outcome => cases outcome
  | idle about => cases about

/-! ## Runs that keep to one trial -/

theorem OnlyNewest.single {t : Traffic} (h : t.OnlyNewest) : t.SingleTrial :=
  fun state i j onTrial onTrial' =>
    Option.some.inj ((h state i onTrial).symm.trans (h state j onTrial'))

/-- A move keeps to one trial, unless a call arrives while the place of a running trial is free. -/
theorem OnlyNewest.change {t t' : Traffic} {move : Move α} (h : t.OnlyNewest)
    (numbered : t.Numbered) (c : Change t move t')
    (kept : ∀ n limit, move = .arrive limit → t.Running n → t.circuit.trialOut = true) :
    t'.OnlyNewest := by
  intro state i onTrial
  obtain ⟨p, out, trial, period⟩ := onTrial
  cases c.of_halfOpen state with
  | tried _ opened =>
    rw [newest_letThrough_of_trial _ _ _ rfl]
    by_cases new : i = t.admitted
    · exact congrArg some new.symm
    · -- the calls from before are of earlier periods
      rw [calls_letThrough_of_ne (t.turn _ _) _ _ new] at out
      have le := numbered.period_le i p out
      rw [periods_letThrough, periods_turn_of_halfOpen _ _ _ (by simp [opened]) rfl] at period
      omega
  | retried limit halfOpen free =>
    rw [newest_letThrough_of_trial _ _ _ rfl]
    by_cases new : i = t.admitted
    · exact congrArg some new.symm
    · -- a call from before would be running
      rw [calls_letThrough_of_ne (t.turn _ _) _ _ new] at out
      rw [periods_letThrough, periods_turn _ _ _ fun _ => halfOpen] at period
      have newest := h halfOpen i ⟨p, out, trial, period⟩
      have taken := kept i limit rfl ⟨halfOpen, newest, p, out⟩
      simp [free] at taken
  | dropped _ halfOpen =>
    rw [calls_giveUp_eq_some_iff] at out
    rw [periods_giveUp] at period
    exact h halfOpen i ⟨p, out.2, trial, period⟩
  | kept => exact h state i ⟨p, out, trial, period⟩

theorem GivesPlaceAway.append {t : Traffic} {moves : List (Move α)} (h : t.GivesPlaceAway moves)
    (more : List (Move α)) : t.GivesPlaceAway (moves ++ more) := by
  obtain ⟨before, stale, between, limit, after, n, p, rfl, h⟩ := h
  exact ⟨before, stale, between, limit, after ++ more, n, p, by simp, h⟩

section Runs

variable (name : String) (policy : BreakerPolicy) (clock : Clock)

theorem newestIsPresent_run (moves : List (Move α)) :
    ((start name policy clock).run moves).NewestIsPresent :=
  run_induction (P := NewestIsPresent) (fun state => by cases state) moves
    fun _ _ _ _ h c => h.change c

/-- If the place of a running trial is free after a run that kept to one trial, then with the next
call the run gives the place away. -/
theorem givesPlaceAway_of_free {moves : List (Move α)} {n : Nat}
    (single : ∀ before, before <+: moves → ((start name policy clock).run before).OnlyNewest)
    (running : ((start name policy clock).run moves).Running n)
    (free : ((start name policy clock).run moves).circuit.trialOut = false)
    (limit : Option Nat) :
    (start name policy clock).GivesPlaceAway (moves ++ [.arrive limit]) := by
  obtain ⟨before, stale, between, p, rfl, wasRunning, out, trial, ne⟩ :=
    exists_drop_of_free _ (fun state => by cases state) moves running free
  obtain ⟨numbered, -⟩ := accounted_run name policy clock before
  have earlier : p.period < ((start name policy clock).run before).periods := by
    refine lt_of_le_of_ne (numbered.period_le stale p out) fun present => ne ?_
    -- a trial of the same period would have been the newest one
    have newest := single before (List.prefix_append _ _) wasRunning.1 stale
      ⟨p, out, trial, present⟩
    exact Option.some.inj (newest.symm.trans wasRunning.2.1)
  exact ⟨before, stale, between, limit, [], n, p, by simp, wasRunning, out, trial, earlier,
    running⟩

/-- A run that gives no place away keeps to one trial throughout. -/
theorem onlyNewest_run (moves : List (Move α))
    (kept : ¬ (start name policy clock).GivesPlaceAway moves) :
    ∀ before, before <+: moves → ((start name policy clock).run before).OnlyNewest := by
  induction moves using List.reverseRecOn with
  | nil =>
    intro before h
    rw [List.prefix_nil.1 h]
    intro state
    cases state
  | append_singleton moves move ih =>
    have ih := ih fun away => kept (away.append [move])
    intro before h
    rcases List.prefix_concat_iff.1 h with rfl | h
    · obtain ⟨numbered, -⟩ := accounted_run name policy clock moves
      rw [run_concat]
      refine (ih moves List.prefix_rfl).change numbered (change_step _ move) ?_
      rintro n limit rfl running
      by_contra free
      rw [Bool.not_eq_true] at free
      exact kept (givesPlaceAway_of_free name policy clock ih running free limit)
    · exact ih before h

/-- A run that gives a place away comes to a moment with two trials on their way. -/
theorem GivesPlaceAway.exists_not_single {moves : List (Move α)}
    (h : (start name policy clock).GivesPlaceAway moves) :
    ∃ before, before <+: moves ∧ ¬ ((start name policy clock).run before).SingleTrial := by
  obtain ⟨before, stale, between, limit, after, n, p, rfl, running, out, trial, -, later⟩ := h
  refine ⟨(before ++ .drop stale :: between) ++ [.arrive limit], ⟨after, by simp⟩, ?_⟩
  have numbered := (accounted_run name policy clock (before ++ .drop stale :: between)).1
  have onTrial := later.onTrial numbered (newestIsPresent_run name policy clock _)
  have free : ((start name policy clock).run (before ++ .drop stale :: between)).circuit.trialOut =
      false := by
    have split : (start name policy clock).run (before ++ .drop stale :: between) =
        (((start name policy clock).run before).giveUp stale p.permit).run between := by
      rw [← step_drop out]
      exact run_append ..
    rw [split] at later ⊢
    refine free_run ?_ ?_ between later
    · exact (accounted_run name policy clock before).1.newest_lt n running.2.1
    · rw [circuit_giveUp, Circuit.abandon_of_trial trial running.1]
  rw [run_concat]
  exact second_trial later (numbered.newest_lt n later.2.1) onTrial free limit

/-- **One trial at a time.** A run has at most one trial of the present half-open period on its
way at any moment exactly if in it no trial of an earlier period is dropped, and followed by an
arrival, while a later trial is running. -/
theorem singleTrial_iff (moves : List (Move α)) :
    (∀ before, before <+: moves → ((start name policy clock).run before).SingleTrial) ↔
      ¬ (start name policy clock).GivesPlaceAway moves := by
  constructor
  · intro single away
    obtain ⟨before, h, several⟩ := away.exists_not_single
    exact several (single before h)
  · intro kept before h
    exact (onlyNewest_run name policy clock moves kept before h).single

end Runs

/-- A trial is running; one of an earlier period, cut short by a forced opening, is dropped, and the
next call is let through as a second trial. -/
theorem second_trial_of_stale_drop :
    ¬ ((start "db" { failureThreshold := 1, recoveryTimeout := 100 } { wallStart := 0 }).run
      ([.forceOpen, .wait 100, .arrive none, .forceOpen, .wait 100, .arrive none, .drop 0,
        .arrive none] : List (Move Unit))).SingleTrial := by
  intro single
  have same := single rfl 1 2 ⟨_, rfl, rfl, rfl⟩ ⟨_, rfl, rfl, rfl⟩
  cases same

end Traffic

end Safeguard
