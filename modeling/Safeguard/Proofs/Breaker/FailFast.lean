import Safeguard.Proofs.Breaker.TrialSlot

/-!
# Failing fast

A breaker that opens, by a failure or by force, turns every call away for one recovery time,
whatever becomes of the calls that are still on their way; only a reset ends this early. The window
is kept by every move (`ShutUntil.change`): a late success leaves the end of the wait where it is,
and a late failure or a forced opening puts it one recovery time ahead, which is as far as it can
be.
-/

namespace Safeguard

namespace Traffic

variable {α : Type}

/-- The move opens the circuit: by force, or as a failure of a call. -/
def Opens (t : Traffic) (move : Move α) : Prop :=
  move = .forceOpen ∨
    (∃ i, t.outcome? move = some (i, false)) ∧ t.state ≠ .opened ∧ (t.step move).state = .opened

/-- The circuit is open, and its wait goes on until an instant at least. -/
def ShutUntil (t : Traffic) (end' : Nat) : Prop :=
  t.state = .opened ∧ ∃ next, t.circuit.nextAttempt = some next ∧ end' ≤ next

/-- A call that arrives now is turned away as by an open circuit: its operation never runs, and it
does not come to be on its way. -/
def TurnsAway (α : Type) (t : Traffic) : Prop :=
  ∃ wait, ∀ (limit : Option Nat) (operation : Operation (Reply α)),
    (t.breaker.perform t.now limit operation).1.reply =
        .error (.rejected t.breaker.name (some wait)) ∧
      (t.breaker.perform t.now limit operation).1.invocations = [] ∧
      (t.step (.arrive limit : Move α)).calls = t.calls

variable {t t' : Traffic} {move : Move α}

/-- A move that opens the circuit shuts it for one recovery time. -/
theorem Opens.shutUntil (h : t.Opens move) :
    (t.step move).ShutUntil (t.now + t.breaker.policy.recoveryTimeout) := by
  rcases h with rfl | ⟨⟨i, outcome⟩, before, after⟩
  · exact ⟨rfl, _, rfl, Nat.le_refl _⟩
  · have c := change_step t move
    generalize t.step move = t' at c after
    refine ⟨after, ?_⟩
    cases c with
    | failed =>
      have trips : t.state = .halfOpen ∨ t.circuit.AtThreshold t.breaker.policy := by
        by_contra kept
        change (t.circuit.fail t.breaker.policy t.now).state = .opened at after
        rw [Circuit.state_fail, if_neg kept] at after
        exact before after
      refine ⟨t.now + t.breaker.policy.recoveryTimeout, ?_, Nat.le_refl _⟩
      change (t.circuit.fail t.breaker.policy t.now).nextAttempt = _
      rw [Circuit.nextAttempt_fail, if_pos trips]
    | succeeded _ outcome' => cases outcome.symm.trans outcome'
    | idle => exact absurd after before
    | _ => cases outcome

/-- As long as the circuit stays open no move brings the end of the wait nearer; and until that end
it stays open unless it is reset. -/
theorem ShutUntil.change {end' : Nat} (h : t.ShutUntil end') (c : Change t move t')
    (le : end' ≤ t.now + t.breaker.policy.recoveryTimeout)
    (stays : t'.state = .opened ∨ move ≠ .reset ∧ t.now < end') : t'.ShutUntil end' := by
  obtain ⟨opened, next, eq, le_next⟩ := h
  have opened : t.circuit.state = .opened := opened
  cases c with
  | passed _ closed => exact absurd (closed.symm.trans opened) (by decide)
  | tried _ _ ended =>
    rcases stays with still | ⟨-, lt⟩
    · cases still
    · have waiting := Circuit.ask_of_waiting opened eq (lt.trans_le le_next)
      simp [Circuit.ask, opened, ended] at waiting
  | retried _ halfOpen => exact absurd (halfOpen.symm.trans opened) (by decide)
  | refused | waited | idle => exact ⟨opened, next, eq, le_next⟩
  | succeeded =>
    have state : t.circuit.succeed.state = .opened := by
      rw [Circuit.state_succeed, if_neg (by simp [opened]), opened]
    exact ⟨state, next, t.circuit.nextAttempt_succeed.trans eq, le_next⟩
  | failed =>
    have state : (t.circuit.fail t.breaker.policy t.now).state = .opened := by
      rw [Circuit.state_fail, opened, ite_self]
    refine ⟨state, ?_⟩
    change ∃ next, (t.circuit.fail t.breaker.policy t.now).nextAttempt = some next ∧ end' ≤ next
    rw [Circuit.nextAttempt_fail]
    split
    · exact ⟨_, rfl, le⟩
    · exact ⟨next, eq, le_next⟩
  | dropped =>
    exact ⟨(t.state_giveUp ..).trans opened, next, (Circuit.nextAttempt_abandon ..).trans eq,
      le_next⟩
  | wasReset =>
    rcases stays with still | ⟨no_reset, -⟩
    · cases still
    · exact absurd rfl no_reset
  | forcedOpen => exact ⟨rfl, _, rfl, le⟩

/-- A circuit that is shut for one recovery time stays so in a run without a reset. -/
theorem shutUntil_run (h : t.ShutUntil (t.now + t.breaker.policy.recoveryTimeout))
    (moves : List (Move α)) (no_reset : ∀ move ∈ moves, move ≠ .reset)
    (lt : (t.run moves).now < t.now + t.breaker.policy.recoveryTimeout) :
    (t.run moves).ShutUntil (t.now + t.breaker.policy.recoveryTimeout) := by
  have inv := run_induction
    (P := fun t' => t.now ≤ t'.now ∧ t'.breaker.SameGuard t.breaker ∧
      (t'.now < t.now + t.breaker.policy.recoveryTimeout →
        t'.ShutUntil (t.now + t.breaker.policy.recoveryTimeout)))
    ⟨Nat.le_refl _, .refl _, fun _ => h⟩ moves ?_
  · exact inv.2.2 lt
  · rintro t₁ t₂ move mem ⟨le, guard, shut⟩ c
    have le' := now_le_change c
    refine ⟨le.trans le', (sameGuard_change c).trans guard, fun lt => ?_⟩
    refine (shut (le'.trans_lt lt)).change c ?_ (.inr ⟨no_reset move mem, le'.trans_lt lt⟩)
    rw [guard.2.1]
    omega

/-- While the circuit stays open through a run, the end of the wait is never moved back. -/
theorem shutUntil_of_opened {end' : Nat} (h : t.ShutUntil end')
    (coherent : t.circuit.Coherent t.breaker.policy t.now) (moves : List (Move α))
    (still : ∀ before, before <+: moves → (t.run before).state = .opened) :
    (t.run moves).ShutUntil end' := by
  induction moves generalizing t with
  | nil => exact h
  | cons move moves ih =>
    have c := change_step t move
    obtain ⟨next, eq, le_next⟩ := h.2
    have first : (t.step move).state = .opened := still [move] ⟨moves, rfl⟩
    have le := le_next.trans (coherent.nextAttempt_le next eq)
    refine ih (h.change c le (.inl first)) (coherent_change coherent c) fun before pre => ?_
    exact still (move :: before) (List.cons_prefix_cons.2 ⟨rfl, pre⟩)

/-! ## Calls that arrive -/

theorem ShutUntil.turnsAway {end' : Nat} (h : t.ShutUntil end') (lt : t.now < end') :
    t.TurnsAway α := by
  obtain ⟨opened, next, eq, le_next⟩ := h
  have ask := Circuit.ask_of_waiting opened eq (lt.trans_le le_next)
  have rejected : (t.breaker.ask t.now).1 = .rejected (some (next - t.now)) := by
    rw [Breaker.admission_ask, ask]
  refine ⟨next - t.now, fun limit operation => ?_⟩
  rw [Breaker.perform_of_rejected rejected]
  refine ⟨rfl, rfl, ?_⟩
  simp only [step, arrive, rejected, calls_turn]

theorem now_step_of_opens (h : t.Opens move) : (t.step move).now = t.now := by
  have c := change_step t move
  generalize t.step move = t' at c
  cases c with
  | waited =>
    rcases h with h | ⟨⟨i, outcome⟩, -⟩
    · cases h
    · cases outcome
  | _ => rfl

/-- **Failing fast.** From a moment at which the breaker opens, by a failure or by force, and until
the next reset, every call that arrives within one recovery time is turned away and its operation
never runs, whatever else happens meanwhile. And while the breaker stays open, the end of its wait
is never moved back. -/
theorem fails_fast (name : String) (policy : BreakerPolicy) (clock : Clock)
    (before after : List (Move α)) :
    let t := (start name policy clock).run before
    (∀ move : Move α, t.Opens move → (∀ m ∈ after, m ≠ .reset) →
      let t' := (t.step move).run after
      t'.now < t.now + policy.recoveryTimeout → t'.TurnsAway α) ∧
      ((∀ between, between <+: after → (t.run between).state = .opened) →
        ∀ a b, t.circuit.nextAttempt = some a → (t.run after).circuit.nextAttempt = some b →
          a ≤ b) := by
  intro t
  obtain ⟨-, accounted⟩ := accounted_run name policy clock before
  have guard : t.breaker.policy = policy := (sameGuard_run (start name policy clock) before).2.1
  constructor
  · intro move opens no_reset t' lt
    have same_now := now_step_of_opens opens
    have same_policy := (sameGuard_change (change_step t move)).2.1
    have shut := opens.shutUntil
    rw [← same_now, ← same_policy] at shut
    rw [← same_now, ← guard, ← same_policy] at lt
    exact (shutUntil_run shut after no_reset lt).turnsAway lt
  · intro still a b first last
    have shut : t.ShutUntil a := ⟨still [] (List.nil_prefix), a, first, Nat.le_refl a⟩
    obtain ⟨-, next, eq, le⟩ := shutUntil_of_opened shut accounted.coherent after still
    rw [eq] at last
    cases last
    exact le

/-- A call fails and opens the breaker; another one that was on its way succeeds meanwhile, and
calls are still turned away. -/
theorem fails_fast_after_late_success :
    let t := (start "db" { failureThreshold := 1, recoveryTimeout := 100 } { wallStart := 0 }).run
      ([.arrive none, .arrive none] : List (Move Unit))
    let t' := (t.step (.reply 0 (.error "refused") : Move Unit)).run
      ([.wait 50, .reply 1 (.ok ())] : List (Move Unit))
    t.Opens (.reply 0 (.error "refused") : Move Unit) ∧ t'.now < t.now + 100 ∧
      t'.TurnsAway Unit := by
  intro t t'
  have opens : t.Opens (.reply 0 (.error "refused") : Move Unit) :=
    .inr ⟨⟨0, rfl⟩, by decide, by decide⟩
  have lt : t'.now < t.now + 100 := by decide
  refine ⟨opens, lt, (fails_fast "db" _ _ _ [.wait 50, .reply 1 (.ok ())]).1 _ opens ?_ lt⟩
  simp

end Traffic

end Safeguard
