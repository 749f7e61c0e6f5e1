import Mathlib.Algebra.Ring.Int.Defs
import Safeguard.Proofs.Breaker.FailFast
import Safeguard.Proofs.Breaker.LateFailure

/-!
# The dates in a report

A failure that opens the circuit, or begins the wait of an open one anew (`Traffic.Arms`), leaves
two instants behind: its own and the end of the wait. Reports date both by the anchor of the
breaker, which never changes, so both keep their dates until something moves the instants themselves
(`Traffic.LeavesDates`).

Dates are computed in bounded integers. As long as both clocks read less than `2 ^ 62` seconds
(`Clock.WithinReach`), every instant from the creation of the breaker to one recovery time ahead is
within these bounds (`Clock.WithinReach.shown`): a recovery time of 64 bits of milliseconds is less
than `2 ^ 55` seconds. The wall clock shows such an instant, the date is that of what it shows, and
a later instant has no earlier date. What is before the epoch is dated 0, so only dates from the
epoch on are as far apart as their instants.
-/

namespace Safeguard

/-- Both clocks read less than `2 ^ 62` seconds at an instant. -/
structure Clock.WithinReach (c : Clock) (now : Nat) : Prop where
  now_lt : now < 2 ^ 62 * 1000000000
  wall_lt : c.wallStart + now < 2 ^ 62 * 1000000000

/-! ## Dates -/

theorem toNat_unixMillis (t : Int) :
    (unixMillis t).toNat = min (t.toNat / 1000000) maxWord64 := toNat_wholeMillis _

theorem unixMillis_mono {s t : Int} (le : s ≤ t) : unixMillis s ≤ unixMillis t := by
  rw [UInt64.le_iff_toNat_le, toNat_unixMillis, toNat_unixMillis]
  have := Nat.div_le_div_right (c := 1000000) (Int.toNat_le_toNat le)
  omega

/-- Whole milliseconds later the date is that much later, until it reaches the largest number of 64
bits. -/
theorem toNat_unixMillis_add_ofMillis {t : Int} (nonneg : 0 ≤ t) (millis : UInt64) :
    (unixMillis (t + ofMillis millis)).toNat =
      min maxWord64 ((unixMillis t).toNat + millis.toNat) := by
  simp only [toNat_unixMillis, ofMillis]
  omega

/-- A recovery time in milliseconds is far shorter than the clocks can read. -/
theorem ofMillis_lt (millis : UInt64) : ofMillis millis < 2 ^ 55 * 1000000000 := by
  have := millis.toNat_lt
  simp only [ofMillis]
  omega

/-- The anchor dates an instant by what the wall clock shows then, if it can show it. -/
theorem Anchor.unixMillis_of_shown {a : Anchor} {instant : Nat} {t : Int}
    (shown : wallShift? a.wall (instant - a.instant) = some t) :
    a.unixMillis instant = Safeguard.unixMillis t := by
  simp only [unixMillis, unixMillisAt, shown]

namespace Clock.WithinReach

variable {c : Clock} {now : Nat} {recovery : UInt64} {instant : Nat}

/-- An instant of at most one recovery time ahead is within the range of the monotonic clock, and
what the wall clock shows then is within its own. -/
theorem shown (h : c.WithinReach now) (created : InWallRange c.wall) (from' : c.now ≤ instant)
    (upto : instant ≤ now + ofMillis recovery) :
    instant < 2 ^ 63 * 1000000000 ∧
      wallShift? c.wall ((instant : Int) - c.now) = some (c.wallStart + instant) := by
  have recovery_lt := ofMillis_lt recovery
  have now_lt := h.now_lt
  have wall_lt := h.wall_lt
  have wall : c.wall = c.wallStart + c.now := rfl
  have eq : c.wall + ((instant : Int) - c.now) = c.wallStart + instant := by omega
  refine ⟨by omega, ?_⟩
  rw [wallShift?, eq, if_pos]
  exact ⟨by omega, by omega⟩

end Clock.WithinReach

/-! ## Circuits that wait -/

/-- The circuit is open; the last failure and the end of the wait. -/
structure Circuit.Waits (c : Circuit) (failed next : Nat) : Prop where
  opened : c.state = .opened
  lastFailure : c.lastFailure = some failed
  nextAttempt : c.nextAttempt = some next

/-- The report of a circuit that waits. -/
theorem Breaker.status_of_waits {b : Breaker} {failed next : Nat} (h : b.circuit.Waits failed next)
    (now : Nat) :
    (b.status now).lastFailureTime = some (b.anchor.unixMillis failed) ∧
      (b.status now).nextAttemptTime = some (b.anchor.unixMillis next) ∧
      ((b.status now).isAvailable = true ↔ next ≤ now) := by
  simp [status, Circuit.isAvailable, h.opened, h.lastFailure, h.nextAttempt]

namespace Traffic

variable {α : Type}

/-- A failure opens the circuit, or finds it open and at its threshold and begins the wait anew. -/
def Arms (t : Traffic) (move : Move α) : Prop :=
  (∃ i, t.outcome? move = some (i, false)) ∧
    (t.state ≠ .opened ∧ (t.step move).state = .opened ∨
      t.state = .opened ∧ t.circuit.AtThreshold t.breaker.policy)

/-- A move leaves the circuit as it is, or comes before the end of the wait and is neither a
failure nor a reset nor a forced opening. -/
def LeavesDates (t : Traffic) (move : Move α) : Prop :=
  (t.step move).circuit = t.circuit ∨
    (∃ next, t.circuit.nextAttempt = some next ∧ t.now < next) ∧ move ≠ .reset ∧
      move ≠ .forceOpen ∧ ∀ i, t.outcome? move ≠ some (i, false)

/-- All moves of a run leave the dates of the report as they are. -/
def Undisturbed (t : Traffic) (moves : List (Move α)) : Prop :=
  ∀ before move after, moves = before ++ move :: after → (t.run before).LeavesDates move

variable {t t' : Traffic} {move : Move α}

/-- A failure that arms the circuit sets the end of the wait to one recovery time from now. -/
theorem Arms.waits (h : t.Arms move) :
    (t.step move).circuit.Waits t.now (t.now + t.breaker.policy.recoveryTimeout) := by
  obtain ⟨⟨i, outcome⟩, how⟩ := h
  have c := change_step t move
  have last := lastFailure_of_failure c outcome
  generalize t.step move = t' at c last how
  cases c with
  | succeeded _ outcome' => cases outcome.symm.trans outcome'
  | idle _ outcome' => cases outcome.symm.trans outcome'
  | failed =>
    have trips : t.state = .halfOpen ∨ t.circuit.AtThreshold t.breaker.policy := by
      obtain ⟨before, after⟩ | ⟨-, reached⟩ := how
      · by_contra kept
        change (t.circuit.fail t.breaker.policy t.now).state = .opened at after
        rw [Circuit.state_fail, if_neg kept] at after
        exact before after
      · exact .inr reached
    refine ⟨?_, last, ?_⟩
    · exact (Circuit.state_fail ..).trans (if_pos trips)
    · exact (Circuit.nextAttempt_fail ..).trans (if_pos trips)
  | _ => cases outcome

/-- A circuit that waits goes on to wait. -/
theorem waits_step {failed next : Nat} (h : t.circuit.Waits failed next)
    (leaves : t.LeavesDates move) : (t.step move).circuit.Waits failed next := by
  obtain same | ⟨⟨next', eq, lt⟩, no_reset, no_force, no_failure⟩ := leaves
  · rwa [same]
  · cases eq.symm.trans h.nextAttempt
    have c := change_step t move
    have last := (same_lastFailure c no_failure no_reset).trans h.lastFailure
    generalize t.step move = t' at c last
    suffices t'.state = .opened ∧ t'.circuit.nextAttempt = some next from ⟨this.1, last, this.2⟩
    cases c with
    | passed | refused | waited | idle => exact ⟨h.opened, eq⟩
    | tried _ _ ended =>
      have waiting := Circuit.ask_of_waiting h.opened eq lt
      simp [Circuit.ask, h.opened, ended] at waiting
    | retried _ halfOpen => exact absurd (halfOpen.symm.trans h.opened) (by decide)
    | succeeded =>
      have state : t.circuit.succeed.state = .opened := by simp [Circuit.state_succeed, h.opened]
      exact ⟨state, t.circuit.nextAttempt_succeed.trans eq⟩
    | failed _ _ outcome => exact absurd outcome (no_failure _)
    | dropped =>
      exact ⟨(t.state_giveUp ..).trans h.opened, (Circuit.nextAttempt_abandon ..).trans eq⟩
    | wasReset => exact absurd rfl no_reset
    | forcedOpen => exact absurd rfl no_force

/-- A circuit that waits does so through a run that leaves the dates as they are. -/
theorem waits_run {failed next : Nat} (moves : List (Move α)) (h : t.circuit.Waits failed next)
    (undisturbed : t.Undisturbed moves) : (t.run moves).circuit.Waits failed next := by
  induction moves generalizing t with
  | nil => exact h
  | cons move moves ih =>
    refine ih (waits_step h (undisturbed [] move moves rfl)) fun before move' after split => ?_
    exact undisturbed (move :: before) move' after (congrArg (move :: ·) split)

/-! ## Runs -/

section Runs

variable (name : String) (policy : BreakerPolicy) (clock : Clock)

/-- No end of the wait is before the creation of the breaker. -/
theorem created_le_nextAttempt_run (moves : List (Move α)) {next : Nat}
    (eq : ((start name policy clock).run moves).circuit.nextAttempt = some next) :
    clock.now ≤ next := by
  have inv := run_induction (P := fun t => clock.now ≤ t.now ∧
    ∀ next, t.circuit.nextAttempt = some next → clock.now ≤ next)
    (t := start name policy clock) ⟨Nat.le_refl _, fun _ eq => by cases eq⟩ moves ?_
  · exact inv.2 next eq
  rintro t t' move - ⟨le, bound⟩ c
  refine ⟨le.trans (now_le_change c), fun next eq => ?_⟩
  cases c with
  | passed | refused | retried | waited | idle => exact bound next eq
  | tried | wasReset => cases eq
  | succeeded => exact bound next ((Circuit.nextAttempt_succeed _).symm.trans eq)
  | failed =>
    have eq : (t.circuit.fail t.breaker.policy t.now).nextAttempt = some next := eq
    rw [Circuit.nextAttempt_fail] at eq
    split at eq
    · cases eq
      exact Nat.le_add_right_of_le le
    · exact bound next eq
  | dropped => exact bound next ((Circuit.nextAttempt_abandon ..).symm.trans eq)
  | forcedOpen =>
    cases eq
    exact Nat.le_add_right_of_le le

theorem now_le_now_run (t : Traffic) (moves : List (Move α)) : t.now ≤ (t.run moves).now :=
  run_induction (P := fun t' => t.now ≤ t'.now) (Nat.le_refl _) moves
    fun _ _ _ _ le c => le.trans (now_le_change c)

theorem nextAttempt_le_run (moves : List (Move α)) {next : Nat}
    (eq : ((start name policy clock).run moves).circuit.nextAttempt = some next) :
    next ≤ ((start name policy clock).run moves).now + policy.recoveryTimeout := by
  have coherent := (accounted_run name policy clock moves).2.coherent
  rw [(sameGuard_run (start name policy clock) moves).2.1] at coherent
  exact coherent.nextAttempt_le next eq

/-- After a failure that arms it, the circuit waits for one recovery time, right away and for as
long as nothing moves the dates. -/
theorem waits_of_arms (before later : List (Move α)) {failure : Move α}
    (arms : ((start name policy clock).run before).Arms failure) :
    let after (moves : List (Move α)) := (start name policy clock).run moves
    let failed := (after before).now
    clock.now ≤ failed ∧ failed ≤ (after (before ++ failure :: later)).now ∧
      (after (before ++ [failure])).circuit.Waits failed (failed + policy.recoveryTimeout) ∧
      ((after (before ++ [failure])).Undisturbed later →
        (after (before ++ failure :: later)).circuit.Waits failed
          (failed + policy.recoveryTimeout)) := by
  intro after failed
  have first : after (before ++ [failure]) = (after before).step failure := run_concat ..
  have rest : after (before ++ failure :: later) = (after (before ++ [failure])).run later := by
    rw [← run_append, List.append_assoc, List.singleton_append]
  have waits : (after (before ++ [failure])).circuit.Waits failed
      (failed + policy.recoveryTimeout) := by
    have waits := arms.waits
    rw [(sameGuard_run (start name policy clock) before).2.1] at waits
    rwa [first]
  refine ⟨now_le_now_run (start name policy clock) before, ?_, waits, fun undisturbed => ?_⟩
  · rw [rest, first]
    exact (now_le_change (change_step ..)).trans (now_le_now_run ..)
  · rw [rest]
    exact waits_run later waits undisturbed

/-- **The dates in a report are stable and consistent.** Right after a failure that arms the breaker
the end of the wait is reported one recovery time after the failure, in milliseconds up to the
largest number of 64 bits, if the wall clock showed the epoch or a later time then. (The date of an
earlier failure is 0, whenever it was: `dates_apart_before_epoch`.) As long as the moves that follow
leave the dates as they are, every report gives the same two, and calls the breaker available from
the end of the wait on and not before. Every instant from the creation of the breaker to one
recovery time ahead is within the range of both clocks, so that no date is the 0 of an instant that
the wall clock cannot show; this includes the end of every wait. A later one of these instants has
no earlier date. -/
theorem dates_stable (recovery : UInt64) (configured : policy.recoveryTimeout = ofMillis recovery)
    (created : InWallRange clock.wall) (moves : List (Move α))
    (reach : clock.WithinReach ((start name policy clock).run moves).now) :
    let after (moves : List (Move α)) := (start name policy clock).run moves
    let report (moves : List (Move α)) := (after moves).breaker.status (after moves).now
    let horizon := (after moves).now + policy.recoveryTimeout
    (∀ before failure later, moves = before ++ failure :: later → (after before).Arms failure →
        ∃ failed next : UInt64,
          (report (before ++ [failure])).lastFailureTime = some failed ∧
          (report (before ++ [failure])).nextAttemptTime = some next ∧
          (0 ≤ clock.wallStart + (after before).now →
            next.toNat = min maxWord64 (failed.toNat + recovery.toNat)) ∧
          ((after (before ++ [failure])).Undisturbed later →
            (report moves).lastFailureTime = some failed ∧
            (report moves).nextAttemptTime = some next ∧
            ((report moves).isAvailable = true ↔
              (after before).now + policy.recoveryTimeout ≤ (after moves).now))) ∧
      (∀ instant, clock.now ≤ instant → instant ≤ horizon →
        instant < 2 ^ 63 * 1000000000 ∧
          wallShift? clock.wall ((instant : Int) - clock.now) = some (clock.wallStart + instant)) ∧
      (∀ next, (after moves).circuit.nextAttempt = some next →
        clock.now ≤ next ∧ next ≤ horizon ∧
          (report moves).nextAttemptTime = some (unixMillis (clock.wallStart + next))) ∧
      (∀ a b, clock.now ≤ a → a ≤ b → b ≤ horizon →
        (after moves).breaker.anchor.unixMillis a ≤ (after moves).breaker.anchor.unixMillis b) := by
  intro after report horizon
  have anchored (moves : List (Move α)) : (after moves).breaker.anchor = .ofClock clock :=
    (sameGuard_run (start name policy clock) moves).2.2
  have shown {instant : Nat} (from' : clock.now ≤ instant) (upto : instant ≤ horizon) :=
    have within : instant ≤ (after moves).now + ofMillis recovery := configured ▸ upto
    reach.shown created from' within
  have date {instant : Nat} (from' : clock.now ≤ instant) (upto : instant ≤ horizon) :
      (Anchor.ofClock clock).unixMillis instant = unixMillis (clock.wallStart + instant) :=
    Anchor.unixMillis_of_shown (shown from' upto).2
  refine ⟨?_, fun instant => shown, ?_, ?_⟩
  · rintro before failure later rfl arms
    obtain ⟨le_before, le_after, waits, rest⟩ :=
      waits_of_arms name policy clock before later arms
    obtain ⟨failed, next, -⟩ := Breaker.status_of_waits waits (after (before ++ [failure])).now
    rw [anchored] at failed next
    refine ⟨_, _, failed, next, fun epoch => ?_, fun undisturbed => ?_⟩
    · rw [date le_before (Nat.le_add_right_of_le le_after),
        date (Nat.le_add_right_of_le le_before) (Nat.add_le_add_right le_after _), configured,
        Int.natCast_add, ← Int.add_assoc]
      exact toNat_unixMillis_add_ofMillis epoch recovery
    · have same := Breaker.status_of_waits (rest undisturbed)
        (after (before ++ failure :: later)).now
      rwa [anchored] at same
  · intro next eq
    have from' := created_le_nextAttempt_run name policy clock moves eq
    have upto : next ≤ horizon := nextAttempt_le_run name policy clock moves eq
    refine ⟨from', upto, ?_⟩
    rw [← date from' upto, ← anchored moves]
    exact congrArg (Option.map _) eq
  · intro a b from' le upto
    rw [anchored, date from' (le.trans upto), date (from'.trans le) upto]
    exact unixMillis_mono (by omega)

end Runs

/-- A failure opens the breaker half a millisecond after its creation. 999 milliseconds later the
report still gives the date of the failure and that of the end of the wait, one second apart, and
the breaker as not available; a millisecond on it is available. -/
theorem dates_stable_of_one_failure :
    let policy : BreakerPolicy := { failureThreshold := 1, recoveryTimeout := ofMillis 1000 }
    let clock : Clock := { wallStart := 1700000000000000000 }
    let opening : List (Move Unit) := [.arrive none, .wait 500000]
    let after (d : Nat) :=
      (start "db" policy clock).run (opening ++ .reply 0 (.error "refused") :: [.wait d])
    let report (d : Nat) := (after d).breaker.status (after d).now
    InWallRange clock.wall ∧ clock.WithinReach (after 1000000000).now ∧
      (report 999000000).lastFailureTime = some 1700000000000 ∧
      (report 999000000).nextAttemptTime = some 1700000001000 ∧
      (report 999000000).isAvailable = false ∧ (report 1000000000).isAvailable = true := by
  intro policy clock opening after report
  have created : InWallRange clock.wall := by decide
  have reach (d : Nat) (le : d ≤ 1000000000) : clock.WithinReach (after d).now := by
    have now : (after d).now = 0 + 500000 + d := rfl
    have start : clock.wallStart = 1700000000000000000 := rfl
    exact ⟨by omega, by omega⟩
  have arms : ((start "db" policy clock).run opening).Arms
      (.reply 0 (.error "refused") : Move Unit) :=
    ⟨⟨0, rfl⟩, .inl ⟨by decide, rfl⟩⟩
  have waits (d : Nat) :
      ((start "db" policy clock).run (opening ++ [.reply 0 (.error "refused")])).Undisturbed
        ([.wait d] : List (Move Unit)) := by
    rintro before move later split
    cases before with
    | nil =>
      cases split
      exact .inl rfl
    | cons => simp at split
  obtain ⟨failed, next, first, second, -, stays⟩ :=
    (dates_stable "db" policy clock 1000 rfl created _ (reach 999000000 (by decide))).1 opening _ _
      rfl arms
  obtain ⟨last, following, waiting⟩ := stays (waits 999000000)
  obtain ⟨_, _, -, -, -, stays⟩ :=
    (dates_stable "db" policy clock 1000 rfl created _ (reach 1000000000 (by decide))).1 opening _ _
      rfl arms
  obtain ⟨-, -, ended⟩ := stays (waits 1000000000)
  refine ⟨created, reach 1000000000 (Nat.le_refl _), last.trans (first.symm.trans ?_),
    following.trans (second.symm.trans ?_), Bool.eq_false_iff.2 fun available => ?_,
    ended.2 (by decide)⟩
  · decide +kernel
  · decide +kernel
  · have early : 0 + 500000 + 1000000000 ≤ 0 + 500000 + 999000000 := waiting.1 available
    omega

/-- A failure opens the breaker half a second before the epoch, and the end of the wait is half a
second after it. The failure is dated 0, and the end of the wait is 500 milliseconds later, not the
1000 of the recovery time. -/
theorem dates_apart_before_epoch :
    let policy : BreakerPolicy := { failureThreshold := 1, recoveryTimeout := ofMillis 1000 }
    let clock : Clock := { wallStart := -500000000 }
    let asked := (start "db" policy clock).run ([.arrive none] : List (Move Unit))
    let failure : Move Unit := .reply 0 (.error "refused")
    let failed := (start "db" policy clock).run [.arrive none, failure]
    let report := failed.breaker.status failed.now
    InWallRange clock.wall ∧ clock.WithinReach failed.now ∧ asked.Arms failure ∧
      report.lastFailureTime = some 0 ∧ report.nextAttemptTime = some 500 ∧
      ¬ ∃ last next : UInt64, report.lastFailureTime = some last ∧
        report.nextAttemptTime = some next ∧
        next.toNat = min maxWord64 (last.toNat + UInt64.toNat 1000) := by
  intro policy clock asked failure failed report
  have last : report.lastFailureTime = some 0 := by decide +kernel
  have next : report.nextAttemptTime = some 500 := by decide +kernel
  refine ⟨by decide, ⟨by decide, by decide⟩, ⟨⟨0, rfl⟩, .inl ⟨by decide, rfl⟩⟩, last, next, ?_⟩
  rintro ⟨_, _, last', next', apart⟩
  cases last.symm.trans last'
  cases next.symm.trans next'
  exact absurd apart (by decide)

end Traffic

end Safeguard
