import Safeguard.Proofs.Breaker.TrialSlot

/-!
# Who decides the recovery

A half-open circuit waits for the outcome of its trial: success is to close it and failure to open
it. A settlement is taken for that of the trial whoever it comes from, though. So any call that
settles ends the half-open period (`closed_iff_of_halfOpen`, `opened_iff_of_halfOpen`), and a move
is decided by the trial exactly if it is not the settlement of a stranger
(`Numbered.decidedByTrial_iff`).
-/

namespace Safeguard

namespace Traffic

variable {α : Type}

/-- Call `i` is on its way, and was let through by a closed circuit or as a trial of an earlier
half-open period. -/
def IsStranger (t : Traffic) (i : Nat) : Prop :=
  ∃ p, t.calls i = some p ∧ (p.permit.trial = false ∨ p.period < t.periods)

/-- The move does no more to a half-open circuit than its trial may: it closes the circuit only as
the success of the trial or as a reset, it opens it only as the failure of the trial or by force,
and the settlement of a stranger leaves the circuit half open and the place of the trial as it
is. -/
structure DecidedByTrial (t : Traffic) (move : Move α) : Prop where
  closes : t.state = .halfOpen → (t.step move).state = .closed →
    move = .reset ∨ ∃ i, t.outcome? move = some (i, true) ∧ t.OnTrial i
  opens : t.state = .halfOpen → (t.step move).state = .opened →
    move = .forceOpen ∨ ∃ i, t.outcome? move = some (i, false) ∧ t.OnTrial i
  strangers : t.state = .halfOpen → ∀ i success, t.outcome? move = some (i, success) →
    t.IsStranger i →
      (t.step move).state = .halfOpen ∧ (t.step move).circuit.trialOut = t.circuit.trialOut

/-- A stranger settles while the circuit is half open. -/
def StrangerSettles (t : Traffic) (move : Move α) : Prop :=
  t.state = .halfOpen ∧ ∃ i success, t.outcome? move = some (i, success) ∧ t.IsStranger i

/-- A call on its way is a stranger or on trial. -/
theorem Numbered.isStranger_iff {t : Traffic} (h : t.Numbered) {i : Nat} {p : Passage}
    (out : t.calls i = some p) : t.IsStranger i ↔ ¬ t.OnTrial i := by
  have le := h.period_le i p out
  constructor
  · rintro ⟨q, outq, stranger⟩ ⟨r, outr, trial, period⟩
    cases outq.symm.trans outr
    rcases stranger with no_trial | earlier
    · simp [trial] at no_trial
    · omega
  · intro none_on_trial
    refine ⟨p, out, ?_⟩
    by_contra both
    simp only [not_or, Bool.not_eq_false, not_lt] at both
    exact none_on_trial ⟨p, out, both.1, le.antisymm both.2⟩

/-! ## The ways out of the half-open state -/

variable {t t' : Traffic} {move : Move α}

/-- What a move does to a half-open circuit: any settlement ends the half-open period. -/
theorem exit_cases (state : t.state = .halfOpen) (c : Change t move t') :
    (move = .reset ∧ t'.state = .closed) ∨ (move = .forceOpen ∧ t'.state = .opened) ∨
      (∃ i, t.outcome? move = some (i, true) ∧ t'.state = .closed) ∨
      (∃ i, t.outcome? move = some (i, false) ∧ t'.state = .opened) ∨
      (t.outcome? move = none ∧ move ≠ .reset ∧ move ≠ .forceOpen ∧ t'.state = .halfOpen) := by
  cases c with
  | passed _ closed => exact absurd (closed.symm.trans state) (by decide)
  | tried _ opened => exact absurd (opened.symm.trans state) (by decide)
  | retried | refused | waited =>
    exact .inr (.inr (.inr (.inr ⟨rfl, by simp, by simp, state⟩)))
  | @succeeded _ call _ _ outcome =>
    have closes : t.circuit.succeed.state = .closed := by rw [Circuit.state_succeed, if_pos state]
    exact .inr (.inr (.inl ⟨call, outcome, closes⟩))
  | @failed _ call _ _ _ outcome =>
    have opens : (t.circuit.fail t.breaker.policy t.now).state = .opened := by
      rw [Circuit.state_fail, if_pos (.inl state)]
    exact .inr (.inr (.inr (.inl ⟨call, outcome, opens⟩)))
  | dropped => simpa [outcome?] using state
  | wasReset => exact .inl ⟨rfl, rfl⟩
  | forcedOpen => exact .inr (.inl ⟨rfl, rfl⟩)
  | idle about outcome =>
    refine .inr (.inr (.inr (.inr ⟨outcome, ?_, ?_, state⟩)))
    · rintro rfl
      cases about
    · rintro rfl
      cases about

/-- A half-open circuit closes when any call succeeds, or by a reset. -/
theorem closed_iff_of_halfOpen (state : t.state = .halfOpen) (c : Change t move t') :
    t'.state = .closed ↔ move = .reset ∨ ∃ i, t.outcome? move = some (i, true) := by
  rcases exit_cases state c with ⟨rfl, after⟩ | ⟨rfl, after⟩ | ⟨i, outcome, after⟩ |
    ⟨i, outcome, after⟩ | ⟨outcome, ne, -, after⟩
  · exact iff_of_true after (.inl rfl)
  · simp [after, outcome?]
  · exact iff_of_true after (.inr ⟨i, outcome⟩)
  · have ne : move ≠ .reset := by
      rintro rfl
      cases outcome
    simp [after, outcome, ne]
  · simp [after, outcome, ne]

/-- A half-open circuit opens when any call fails, or by force. -/
theorem opened_iff_of_halfOpen (state : t.state = .halfOpen) (c : Change t move t') :
    t'.state = .opened ↔ move = .forceOpen ∨ ∃ i, t.outcome? move = some (i, false) := by
  rcases exit_cases state c with ⟨rfl, after⟩ | ⟨rfl, after⟩ | ⟨i, outcome, after⟩ |
    ⟨i, outcome, after⟩ | ⟨outcome, -, ne, after⟩
  · simp [after, outcome?]
  · exact iff_of_true after (.inl rfl)
  · have ne : move ≠ .forceOpen := by
      rintro rfl
      cases outcome
    simp [after, outcome, ne]
  · exact iff_of_true after (.inr ⟨i, outcome⟩)
  · simp [after, outcome, ne]

theorem state_ne_halfOpen_of_outcome {i : Nat} {success : Bool} (state : t.state = .halfOpen)
    (c : Change t move t') (outcome : t.outcome? move = some (i, success)) :
    t'.state ≠ .halfOpen := by
  cases success with
  | true => simp [(closed_iff_of_halfOpen state c).2 (.inr ⟨i, outcome⟩)]
  | false => simp [(opened_iff_of_halfOpen state c).2 (.inr ⟨i, outcome⟩)]

/-- A move is decided by the trial exactly if it is no settlement of a stranger. -/
theorem Numbered.decidedByTrial_iff (h : t.Numbered) :
    t.DecidedByTrial move ↔ ¬ t.StrangerSettles move := by
  have c := change_step t move
  constructor
  · rintro decided ⟨state, i, success, outcome, stranger⟩
    have after := (decided.strangers state i success outcome stranger).1
    exact state_ne_halfOpen_of_outcome state c outcome after
  · intro none_settles
    have onTrial : t.state = .halfOpen → ∀ i success, t.outcome? move = some (i, success) →
        t.OnTrial i := by
      intro state i success outcome
      obtain ⟨p, out⟩ := out_of_outcome outcome
      by_contra stranger
      exact none_settles ⟨state, i, success, outcome, (h.isStranger_iff out).2 stranger⟩
    constructor
    · intro state after
      refine ((closed_iff_of_halfOpen state c).1 after).imp_right ?_
      rintro ⟨i, outcome⟩
      exact ⟨i, outcome, onTrial state i true outcome⟩
    · intro state after
      refine ((opened_iff_of_halfOpen state c).1 after).imp_right ?_
      rintro ⟨i, outcome⟩
      exact ⟨i, outcome, onTrial state i false outcome⟩
    · intro state i success outcome stranger
      obtain ⟨p, out⟩ := out_of_outcome outcome
      exact absurd (onTrial state i success outcome) ((h.isStranger_iff out).1 stranger)

/-! ## Runs -/

/-- **Who decides the recovery.** In every run a half-open circuit closes exactly when any call
succeeds or it is reset, and opens exactly when any call fails or it is forced open; and every move
is decided by the trial exactly if no stranger settles while the circuit is half open. -/
theorem recovery_decided_iff (name : String) (policy : BreakerPolicy) (clock : Clock)
    (moves : List (Move α)) :
    (∀ before move after, moves = before ++ move :: after →
      let t := (start name policy clock).run before
      t.state = .halfOpen →
        ((t.step move).state = .closed ↔
          move = .reset ∨ ∃ i, t.outcome? move = some (i, true)) ∧
        ((t.step move).state = .opened ↔
          move = .forceOpen ∨ ∃ i, t.outcome? move = some (i, false))) ∧
      ((∀ before move after, moves = before ++ move :: after →
          ((start name policy clock).run before).DecidedByTrial move) ↔
        ∀ before move after, moves = before ++ move :: after →
          ¬ ((start name policy clock).run before).StrangerSettles move) := by
  constructor
  · intro before move after _ t state
    have c := change_step t move
    exact ⟨closed_iff_of_halfOpen state c, opened_iff_of_halfOpen state c⟩
  · refine forall_congr' fun before => forall_congr' fun move => forall_congr' fun after =>
      imp_congr_right fun _ => Numbered.decidedByTrial_iff ?_
    exact (accounted_run name policy clock before).1

/-- A call that was let through before the circuit opened succeeds while a trial is running, and
the circuit closes. -/
theorem not_decidedByTrial_of_late_success :
    ¬ ((start "db" { failureThreshold := 1, recoveryTimeout := 100 } { wallStart := 0 }).run
      ([.arrive none, .forceOpen, .wait 100, .arrive none] : List (Move Unit))).DecidedByTrial
        (.reply 0 (.ok ()) : Move Unit) := by
  intro decided
  rcases decided.closes rfl rfl with h | ⟨i, outcome, p, out, trial, -⟩
  · cases h
  · cases outcome
    cases out
    cases trial

end Traffic

end Safeguard
