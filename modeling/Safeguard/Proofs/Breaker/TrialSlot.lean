import Safeguard.Proofs.Breaker.Traffic

/-!
# The place of the trial call and the end of the wait

A circuit that starts closed is `Coherent` at every instant: it has an end of the wait exactly
while it is open, that end is at most one recovery time away, and the place of the trial call is
taken only while it is half open. In traffic, a place that is taken belongs to the newest trial,
which is still on its way (`Traffic.Accounted`). So the circuit never turns calls away for good:
with no trial on its way, a call is let through after one recovery time at the latest.
-/

namespace Safeguard

namespace Circuit

/-- What holds at an instant of a circuit that started closed. -/
structure Coherent (p : BreakerPolicy) (now : Nat) (c : Circuit) : Prop where
  isSome_nextAttempt_iff : c.nextAttempt.isSome = true ↔ c.state = .opened
  nextAttempt_le : ∀ next, c.nextAttempt = some next → next ≤ now + p.recoveryTimeout
  state_of_trialOut : c.trialOut = true → c.state = .halfOpen

variable {p : BreakerPolicy} {now : Nat} {c : Circuit}

theorem coherent_new (p : BreakerPolicy) (now : Nat) : ({} : Circuit).Coherent p now where
  isSome_nextAttempt_iff := by simp
  nextAttempt_le _ h := by simp at h
  state_of_trialOut h := by simp at h

/-- A half-open circuit without an end of the wait is coherent. -/
theorem coherent_of_halfOpen (state : c.state = .halfOpen) (next : c.nextAttempt = none) :
    c.Coherent p now where
  isSome_nextAttempt_iff := by simp [state, next]
  nextAttempt_le _ h := by simp [next] at h
  state_of_trialOut _ := state

theorem coherent_trip (c : Circuit) (p : BreakerPolicy) (now : Nat) :
    (c.trip p now).Coherent p now where
  isSome_nextAttempt_iff := by simp [trip, rearm]
  nextAttempt_le next h := by
    simp only [trip, rearm, Option.some.injEq] at h
    omega
  state_of_trialOut h := by simp [trip] at h

namespace Coherent

theorem nextAttempt_eq_none (h : c.Coherent p now) (state : c.state ≠ .opened) :
    c.nextAttempt = none := by
  rw [← Option.not_isSome_iff_eq_none, h.isSome_nextAttempt_iff]
  exact state

theorem mono {later : Nat} (h : c.Coherent p now) (le : now ≤ later) : c.Coherent p later :=
  { h with nextAttempt_le := fun next eq => (h.nextAttempt_le next eq).trans (by omega) }

theorem succeed (h : c.Coherent p now) : c.succeed.Coherent p now where
  isSome_nextAttempt_iff := by
    rw [nextAttempt_succeed, state_succeed, h.isSome_nextAttempt_iff]
    split
    · rename_i state
      simp [state]
    · rfl
  nextAttempt_le next eq := h.nextAttempt_le next (c.nextAttempt_succeed ▸ eq)
  state_of_trialOut taken := by
    rw [trialOut_succeed] at taken
    split at taken
    · simp at taken
    · rename_i state
      exact absurd (h.state_of_trialOut taken) state

theorem fail (h : c.Coherent p now) : (c.fail p now).Coherent p now where
  isSome_nextAttempt_iff := by
    rw [nextAttempt_fail, state_fail]
    split
    · simp
    · exact h.isSome_nextAttempt_iff
  nextAttempt_le next eq := by
    rw [nextAttempt_fail] at eq
    split at eq
    · cases eq
      exact Nat.le_refl _
    · exact h.nextAttempt_le next eq
  state_of_trialOut taken := by
    obtain ⟨taken, state, -⟩ := (c.trialOut_fail p now).1 taken
    exact absurd (h.state_of_trialOut taken) state

theorem abandon (h : c.Coherent p now) (permit : Permit) : (c.abandon permit).Coherent p now where
  isSome_nextAttempt_iff := by
    rw [nextAttempt_abandon, state_abandon]
    exact h.isSome_nextAttempt_iff
  nextAttempt_le next eq := h.nextAttempt_le next (c.nextAttempt_abandon permit ▸ eq)
  state_of_trialOut taken := by
    rw [state_abandon]
    by_cases freed : permit.trial = true ∧ c.state = .halfOpen
    · exact freed.2
    · rw [abandon_of_not freed] at taken
      exact h.state_of_trialOut taken

/-- After one recovery time a call is let through, unless a trial is out. -/
theorem ask_of_free (h : c.Coherent p now) (free : c.trialOut = false) {at' : Nat}
    (le : now + p.recoveryTimeout ≤ at') : ∃ permit, (c.ask at').1 = .admitted permit := by
  rcases c.ask_cases at' with ⟨-, ask⟩ | ⟨-, -, ask⟩ | ⟨-, -, ask⟩ | ⟨-, wait, waiting, -⟩ |
    ⟨-, taken, -⟩
  · exact ⟨_, congrArg Prod.fst ask⟩
  · exact ⟨_, congrArg Prod.fst ask⟩
  · exact ⟨_, congrArg Prod.fst ask⟩
  · -- the wait ends one recovery time from now at the latest
    simp only [remaining?, Option.map_eq_some_iff, Option.filter_eq_some_iff,
      decide_eq_true_eq] at waiting
    obtain ⟨next, ⟨eq, lt⟩, -⟩ := waiting
    have := h.nextAttempt_le next eq
    omega
  · simp [free] at taken

end Coherent

end Circuit

namespace Traffic

variable {α : Type}

variable {t t' : Traffic} {move : Move α}

theorem coherent_change (h : t.circuit.Coherent t.breaker.policy t.now) (c : Change t move t') :
    t'.circuit.Coherent t'.breaker.policy t'.now := by
  cases c with
  | passed | refused | idle => exact h
  | tried => exact Circuit.coherent_of_halfOpen rfl rfl
  | retried _ halfOpen =>
    exact Circuit.coherent_of_halfOpen halfOpen (h.nextAttempt_eq_none (by simp [halfOpen]))
  | succeeded => exact h.succeed
  | failed => exact h.fail
  | dropped => exact h.abandon _
  | wasReset => exact Circuit.coherent_new _ _
  | forcedOpen => exact Circuit.coherent_trip _ _ _
  | waited => exact h.mono (Nat.le_add_right _ _)

/-- The circuit is coherent, and a place that is taken is that of the newest trial. -/
structure Accounted (t : Traffic) : Prop where
  coherent : t.circuit.Coherent t.breaker.policy t.now
  newest_out : t.circuit.trialOut = true → ∃ n p, t.newest = some n ∧ t.calls n = some p

namespace Accounted

/-- A trial that is newest and on its way stays so when another call leaves. -/
theorem newest_out_leave {call : Nat} (out : ∃ n p, t.newest = some n ∧ t.calls n = some p)
    (ne : t.newest ≠ some call) :
    ∃ n p, (t.leave call).newest = some n ∧ (t.leave call).calls n = some p := by
  obtain ⟨n, p, newest, out⟩ := out
  refine ⟨n, p, newest, (t.calls_leave_eq_some_iff call).2 ⟨?_, out⟩⟩
  rintro rfl
  exact ne newest

theorem newest_out_change (h : t.Accounted) (numbered : t.Numbered) (c : Change t move t') :
    t'.circuit.trialOut = true → ∃ n p, t'.newest = some n ∧ t'.calls n = some p := by
  intro taken
  have state := (coherent_change h.coherent c).state_of_trialOut taken
  cases c.of_halfOpen state with
  | tried | retried => exact ⟨_, _, newest_letThrough_of_trial _ _ _ rfl, calls_letThrough_self ..⟩
  | kept => exact h.newest_out taken
  | @dropped call p out halfOpen =>
    rw [circuit_giveUp] at taken
    -- a trial that is dropped frees the place, so the one that leaves is no trial
    have kept : ¬ (p.permit.trial = true ∧ t.state = .halfOpen) := by
      intro freed
      simp [Circuit.abandon_of_trial freed.1 freed.2] at taken
    rw [Circuit.abandon_of_not kept] at taken
    refine newest_out_leave (h.newest_out taken) fun newest => ?_
    exact kept ⟨numbered.newest_trial call p newest out, halfOpen⟩

end Accounted

/-- Every run keeps its books. -/
theorem accounted_run (name : String) (policy : BreakerPolicy) (clock : Clock)
    (moves : List (Move α)) :
    ((start name policy clock).run moves).Numbered ∧
      ((start name policy clock).run moves).Accounted := by
  refine run_induction (P := fun t => t.Numbered ∧ t.Accounted) ?_ moves ?_
  · refine ⟨numbered_start name policy clock, Circuit.coherent_new _ _, fun taken => ?_⟩
    simp [start, Breaker.create] at taken
  · rintro t t' move - ⟨numbered, accounted⟩ c
    exact ⟨numbered.change c, coherent_change accounted.coherent c,
      accounted.newest_out_change numbered c⟩

/-- The place of the trial call is free when no trial is on its way. -/
theorem Accounted.free {t : Traffic} (h : t.Accounted) (numbered : t.Numbered)
    (none_out : ∀ i p, t.calls i = some p → p.permit.trial = false) :
    t.circuit.trialOut = false := by
  rw [← Bool.not_eq_true]
  intro taken
  obtain ⟨n, p, newest, out⟩ := h.newest_out taken
  have trial := numbered.newest_trial n p newest out
  simp [none_out n p out] at trial

/-- **A breaker is never stuck.** In every run it has an end of the wait exactly while it is open,
at most one recovery time ahead; the place of the trial call is taken only while it is half open
and the newest trial is on its way; and with no trial on its way, a call that arrives after one
recovery time or more is let through. -/
theorem never_stuck (name : String) (policy : BreakerPolicy) (clock : Clock)
    (moves : List (Move α)) :
    let t := (start name policy clock).run moves
    (t.circuit.nextAttempt.isSome = true ↔ t.state = .opened) ∧
      (∀ next, t.circuit.nextAttempt = some next → next ≤ t.now + policy.recoveryTimeout) ∧
      (t.circuit.trialOut = true →
        t.state = .halfOpen ∧ ∃ n p, t.newest = some n ∧ t.calls n = some p) ∧
      ((∀ i p, t.calls i = some p → p.permit.trial = false) →
        ∀ later, t.now + policy.recoveryTimeout ≤ later →
          ∃ permit, (t.breaker.ask later).1 = .admitted permit) := by
  intro t
  obtain ⟨numbered, accounted⟩ := accounted_run name policy clock moves
  have guard : t.breaker.policy = policy := (sameGuard_run (start name policy clock) moves).2.1
  have coherent : t.circuit.Coherent policy t.now := guard ▸ accounted.coherent
  refine ⟨coherent.isSome_nextAttempt_iff, coherent.nextAttempt_le, fun taken => ?_, ?_⟩
  · exact ⟨coherent.state_of_trialOut taken, accounted.newest_out taken⟩
  · intro none_out later le
    exact coherent.ask_of_free (accounted.free numbered none_out) le

/-- A dropped trial leaves the circuit half open with its place free, and the next call is let
through. -/
theorem never_stuck_dropped_trial :
    let t := (start "db" { failureThreshold := 1, recoveryTimeout := 100 } { wallStart := 0 }).run
      ([.forceOpen, .wait 100, .arrive none, .drop 0] : List (Move Unit))
    t.state = .halfOpen ∧ (∀ i p, t.calls i = some p → p.permit.trial = false) ∧
      t.now + 100 ≤ 200 ∧ ∃ permit, (t.breaker.ask 200).1 = .admitted permit := by
  intro t
  have none_out : ∀ i p, t.calls i = some p → p.permit.trial = false := by
    intro i p out
    cases i with
    | zero => cases out
    | succ i => cases out
  exact ⟨rfl, none_out, by decide, (never_stuck "db" _ _ _).2.2.2 none_out 200 (by decide)⟩

end Traffic

end Safeguard
