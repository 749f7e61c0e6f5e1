import Safeguard.Proofs.Breaker.Counters
import Safeguard.Proofs.Breaker.FailFast

/-!
# Late failures

A failure of a call that was let through before the circuit opened is to put the trial off by one
recovery time. It does so only if the count of failures is at the threshold, and the count of an
open circuit may be short of it: a forced opening leaves it as it is, and a late success takes it
back to zero. A late failure that comes then is not heeded (`Traffic.Unheeded`), and the trial may
be let through within one recovery time of it.

This is the only way. A run waits out every failure exactly if in it no trial is let through
within one recovery time of a failure that was not heeded: every other failure ends with the wait
reaching one recovery time beyond it (`Change.covered`).
-/

namespace Safeguard

namespace Traffic

variable {α : Type}

/-- If the move lets a trial through an open circuit, then one recovery time after the last
failure at the earliest. -/
def WaitsOut (t : Traffic) (move : Move α) : Prop :=
  t.state = .opened → (t.step move).state = .halfOpen →
    ∀ failed, t.circuit.lastFailure = some failed →
      failed + t.breaker.policy.recoveryTimeout ≤ t.now

/-- A call fails while the circuit is open and short of its threshold. -/
def Unheeded (t : Traffic) (move : Move α) : Prop :=
  t.state = .opened ∧ (∃ i, t.outcome? move = some (i, false)) ∧
    ¬ t.circuit.AtThreshold t.breaker.policy

/-- A failure is not heeded, and with no reset since then an open circuit lets a trial through
within one recovery time of it. -/
def CutsWaitShort (t : Traffic) (moves : List (Move α)) : Prop :=
  ∃ before late between trial after,
    moves = before ++ late :: (between ++ trial :: after) ∧
      (t.run before).Unheeded late ∧ (∀ move ∈ between, move ≠ .reset) ∧
      (t.run (before ++ late :: between)).state = .opened ∧
      ((t.run (before ++ late :: between)).step trial).state = .halfOpen ∧
      (t.run (before ++ late :: between)).now <
        (t.run before).now + t.breaker.policy.recoveryTimeout

/-- The wait of an open circuit reaches one recovery time beyond the last failure. -/
def Covered (t : Traffic) : Prop :=
  t.state = .opened → ∀ failed next, t.circuit.lastFailure = some failed →
    t.circuit.nextAttempt = some next → failed + t.breaker.policy.recoveryTimeout ≤ next

variable {t t' : Traffic} {move : Move α}

/-! ## The last failure -/

theorem lastFailure_of_failure {i : Nat} (c : Change t move t')
    (outcome : t.outcome? move = some (i, false)) : t'.circuit.lastFailure = some t.now := by
  cases c with
  | succeeded _ outcome' => cases outcome.symm.trans outcome'
  | failed => exact Circuit.lastFailure_fail ..
  | idle _ outcome' => cases outcome.symm.trans outcome'
  | _ => cases outcome

/-- A move that is neither a failure nor a reset leaves the last failure as it is. -/
theorem same_lastFailure (c : Change t move t')
    (no_failure : ∀ i, t.outcome? move ≠ some (i, false)) (no_reset : move ≠ .reset) :
    t'.circuit.lastFailure = t.circuit.lastFailure := by
  cases outcome : t.outcome? move with
  | none => exact (same_counters c outcome no_reset).2.2
  | some settled =>
    obtain ⟨i, success⟩ := settled
    cases success with
    | false => exact absurd outcome (no_failure i)
    | true =>
      cases c with
      | succeeded => exact Circuit.lastFailure_succeed _
      | failed _ _ outcome' => cases outcome.symm.trans outcome'
      | idle => rfl
      | _ => cases outcome

theorem failed_le_now_run (name : String) (policy : BreakerPolicy) (clock : Clock)
    (moves : List (Move α)) {failed : Nat}
    (last : ((start name policy clock).run moves).circuit.lastFailure = some failed) :
    failed ≤ ((start name policy clock).run moves).now := by
  revert failed
  refine run_induction (P := fun t => ∀ {failed}, t.circuit.lastFailure = some failed →
    failed ≤ t.now) (fun last => by cases last) moves ?_
  intro t t' move _ le c failed last
  by_cases failure : ∃ i, t.outcome? move = some (i, false)
  · obtain ⟨i, outcome⟩ := failure
    rw [lastFailure_of_failure c outcome, Option.some.injEq] at last
    exact last ▸ now_le_change c
  · by_cases reset : move = .reset
    · subst reset
      cases c with
      | wasReset => cases last
      | succeeded _ outcome | failed _ _ outcome => cases outcome
      | idle about => cases about
    · rw [same_lastFailure c (not_exists.1 failure) reset] at last
      exact (le last).trans (now_le_change c)

/-- After a failure there is a last failure, until the next reset, and it is no earlier. -/
theorem exists_lastFailure_run {failed : Nat} (le : failed ≤ t.now)
    (last : ∃ f, failed ≤ f ∧ t.circuit.lastFailure = some f) (moves : List (Move α))
    (no_reset : ∀ move ∈ moves, move ≠ .reset) :
    ∃ f, failed ≤ f ∧ (t.run moves).circuit.lastFailure = some f := by
  refine (run_induction (P := fun t => failed ≤ t.now ∧
    ∃ f, failed ≤ f ∧ t.circuit.lastFailure = some f) ⟨le, last⟩ moves ?_).2
  rintro t t' move mem ⟨le, f, le_f, last⟩ c
  refine ⟨le.trans (now_le_change c), ?_⟩
  by_cases failure : ∃ i, t.outcome? move = some (i, false)
  · obtain ⟨i, outcome⟩ := failure
    exact ⟨t.now, le, lastFailure_of_failure c outcome⟩
  · exact ⟨f, le_f, (same_lastFailure c (not_exists.1 failure) (no_reset move mem)).trans last⟩

/-! ## The wait and the last failure -/

/-- A failure that is heeded is covered by the wait, and so is everything before a forced opening.
Other moves leave the last failure as it is and uncover nothing. -/
theorem Change.covered (c : Change t move t')
    (le : ∀ failed, t.circuit.lastFailure = some failed → failed ≤ t.now) :
    t'.Covered ∨ t.Unheeded move ∨
      (move ≠ .reset ∧ (∀ i, t.outcome? move ≠ some (i, false)) ∧ (t.Covered → t'.Covered)) := by
  cases c with
  | passed _ closed => exact .inl fun opened => absurd (closed.symm.trans opened) (by decide)
  | tried | wasReset => exact .inl fun opened => by cases opened
  | retried _ halfOpen => exact .inl fun opened => absurd (halfOpen.symm.trans opened) (by decide)
  | refused | waited => exact .inr (.inr ⟨by simp, by simp [outcome?], id⟩)
  | @succeeded _ _ _ _ outcome =>
    refine .inr (.inr ⟨?_, by simp [outcome], fun covered opened failed next last eq => ?_⟩)
    · rintro rfl
      cases outcome
    · have opened : t.circuit.succeed.state = .opened := opened
      rw [Circuit.state_succeed] at opened
      split at opened
      · cases opened
      · exact covered opened failed next ((Circuit.lastFailure_succeed _).symm.trans last)
          ((Circuit.nextAttempt_succeed _).symm.trans eq)
  | @failed _ call _ _ _ outcome =>
    by_cases heeded : t.state = .halfOpen ∨ t.circuit.AtThreshold t.breaker.policy
    · refine .inl fun _ failed next last eq => ?_
      have last := (Circuit.lastFailure_fail ..).symm.trans last
      have eq : (t.circuit.fail t.breaker.policy t.now).nextAttempt = some next := eq
      rw [Circuit.nextAttempt_fail, if_pos heeded] at eq
      cases last
      cases eq
      exact Nat.le_refl _
    · obtain ⟨-, short⟩ := not_or.1 heeded
      by_cases opened : t.state = .opened
      · exact .inr (.inl ⟨opened, ⟨call, outcome⟩, short⟩)
      · refine .inl fun after => absurd ?_ opened
        have after : (t.circuit.fail t.breaker.policy t.now).state = .opened := after
        rwa [Circuit.state_fail, if_neg heeded] at after
  | dropped =>
    refine .inr (.inr ⟨by simp, by simp [outcome?], fun covered opened failed next last eq => ?_⟩)
    exact covered ((t.state_giveUp ..).symm.trans opened) failed next
      ((Circuit.abandon_counters _ _).2.2.symm.trans last)
      ((Circuit.nextAttempt_abandon ..).symm.trans eq)
  | forcedOpen =>
    refine .inl fun _ failed next last eq => ?_
    cases eq
    exact Nat.add_le_add_right (le failed last) _
  | @idle _ _ about outcome =>
    refine .inr (.inr ⟨?_, by simp [outcome], id⟩)
    rintro rfl
    cases about

/-- An open circuit lets a trial through when its wait is over. -/
theorem ended_of_trial {end' : Nat} (coherent : t.circuit.Coherent t.breaker.policy t.now)
    (opened : t.state = .opened) (trial : (t.step move).state = .halfOpen)
    (next : t.circuit.nextAttempt = some end') : end' ≤ t.now := by
  by_contra waiting
  have no_reset : move ≠ .reset := by
    rintro rfl
    cases trial
  have shut : t.ShutUntil end' := ⟨opened, end', next, Nat.le_refl _⟩
  have still := shut.change (change_step t move) (coherent.nextAttempt_le end' next)
    (.inr ⟨no_reset, Nat.lt_of_not_le waiting⟩)
  exact absurd (still.1.symm.trans trial) (by decide)

/-- A wait that covers the last failure is waited out. -/
theorem Covered.waitsOut (h : t.Covered) (coherent : t.circuit.Coherent t.breaker.policy t.now) :
    t.WaitsOut move := by
  intro opened trial failed last
  obtain ⟨next, eq⟩ := Option.isSome_iff_exists.1 (coherent.isSome_nextAttempt_iff.2 opened)
  exact (h opened failed next last eq).trans (ended_of_trial coherent opened trial eq)

section Runs

variable (name : String) (policy : BreakerPolicy) (clock : Clock)

/-- A failure that the wait does not cover was not heeded. -/
theorem exists_unheeded_of_not_covered (moves : List (Move α))
    (uncovered : ¬ ((start name policy clock).run moves).Covered) :
    ∃ before late between, moves = before ++ late :: between ∧
      ((start name policy clock).run before).Unheeded late ∧
      (∀ move ∈ between, move ≠ .reset) ∧
      ((start name policy clock).run moves).circuit.lastFailure =
        some ((start name policy clock).run before).now := by
  induction moves using List.reverseRecOn with
  | nil => exact absurd (fun opened => by cases opened) uncovered
  | append_singleton moves move ih =>
    rw [run_concat] at uncovered ⊢
    have c := change_step ((start name policy clock).run moves) move
    have le : ∀ failed, ((start name policy clock).run moves).circuit.lastFailure = some failed →
        failed ≤ ((start name policy clock).run moves).now :=
      fun _ => failed_le_now_run name policy clock moves
    obtain covered | unheeded | ⟨no_reset, no_failure, kept⟩ := c.covered le
    · exact absurd covered uncovered
    · obtain ⟨i, outcome⟩ := unheeded.2.1
      exact ⟨moves, move, [], rfl, unheeded, by simp, lastFailure_of_failure c outcome⟩
    · obtain ⟨before, late, between, rfl, unheeded, none_reset, last⟩ :=
        ih fun covered => uncovered (kept covered)
      refine ⟨before, late, between ++ [move], by simp, unheeded, ?_,
        (same_lastFailure c no_failure no_reset).trans last⟩
      intro m mem
      rcases List.mem_append.1 mem with mem | mem
      · exact none_reset m mem
      · rw [List.mem_singleton.1 mem]
        exact no_reset

/-- A trial that comes too early after the last failure cuts the wait short. -/
theorem cutsWaitShort_of_not_waitsOut {before after : List (Move α)} {move : Move α}
    (early : ¬ ((start name policy clock).run before).WaitsOut move) :
    (start name policy clock).CutsWaitShort (before ++ move :: after) := by
  have coherent := (accounted_run name policy clock before).2.coherent
  obtain ⟨earlier, late, between, rfl, unheeded, no_reset, last⟩ :=
    exists_unheeded_of_not_covered name policy clock before fun covered =>
      early (covered.waitsOut coherent)
  have guard := (sameGuard_run (start name policy clock) (earlier ++ late :: between)).2.1
  simp only [WaitsOut, last, guard, Option.some.injEq, forall_eq', Classical.not_imp,
    Nat.not_le] at early
  obtain ⟨opened, trial, lt⟩ := early
  exact ⟨earlier, late, between, move, after, by simp, unheeded, no_reset, opened, trial, lt⟩

/-- A wait that is cut short has not been waited out. -/
theorem CutsWaitShort.exists_not_waitsOut {moves : List (Move α)}
    (h : (start name policy clock).CutsWaitShort moves) :
    ∃ before move after, moves = before ++ move :: after ∧
      ¬ ((start name policy clock).run before).WaitsOut move := by
  obtain ⟨before, late, between, trial, after, rfl, ⟨-, ⟨i, outcome⟩, -⟩, no_reset, opened, tried,
    lt⟩ := h
  refine ⟨before ++ late :: between, trial, after, by simp, fun waits => ?_⟩
  have c := change_step ((start name policy clock).run before) late
  have split : (start name policy clock).run (before ++ late :: between) =
      (((start name policy clock).run before).step late).run between := run_append ..
  obtain ⟨failed, le, last⟩ := exists_lastFailure_run (now_le_change c)
    ⟨_, Nat.le_refl _, lastFailure_of_failure c outcome⟩ between no_reset
  have guard := (sameGuard_run (start name policy clock) (before ++ late :: between)).2.1
  have whole := waits opened tried failed (split ▸ last)
  rw [guard] at whole
  omega

/-- **When the wait starts anew.** A run lets every trial through an open circuit one recovery time
after the last failure at the earliest, exactly if in it no trial is let through within one recovery
time of a late failure that finds the circuit open and short of its threshold, with no reset
between them. -/
theorem waits_out_iff (moves : List (Move α)) :
    (∀ before move after, moves = before ++ move :: after →
        ((start name policy clock).run before).WaitsOut move) ↔
      ¬ (start name policy clock).CutsWaitShort moves := by
  constructor
  · intro waits short
    obtain ⟨before, move, after, split, early⟩ := short.exists_not_waitsOut
    exact early (waits before move after split)
  · rintro whole before move after rfl
    by_contra early
    exact whole (cutsWaitShort_of_not_waitsOut name policy clock early)

end Runs

/-- Two failures open the circuit, a late success takes the count back to zero, and a late failure
is not heeded: the trial is let through forty nanoseconds after it, and not a hundred. -/
theorem trial_too_early_after_late_success :
    ¬ ((start "db" { failureThreshold := 2, recoveryTimeout := 100 } { wallStart := 0 }).run
      ([.arrive none, .arrive none, .arrive none, .arrive none, .reply 0 (.error "refused"),
        .reply 1 (.error "refused"), .reply 2 (.ok ()), .wait 60, .reply 3 (.error "refused"),
        .wait 40] : List (Move Unit))).WaitsOut (.arrive none : Move Unit) := by
  intro waits
  have whole := waits rfl rfl 60 rfl
  exact absurd whole (by decide)

end Traffic

end Safeguard
