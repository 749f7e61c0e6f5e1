import Mathlib.Algebra.Group.Nat.Defs
import Mathlib.Data.List.Induction
import Safeguard.Proofs.Breaker.Traffic

/-!
# What the counters count

A `Mark` is left by every move that the counters are to notice: a call that succeeds, a call that
fails, and a reset. What the counters should say is read off the marks of a run, the latest first,
without looking at the circuit: `Mark.failuresInARow`, `Mark.successes` and `Mark.lastFailure?`.

The circuit says the same after every run (`counts_run`), whatever state a call settles in and
whatever state it was let through in, and no call leaves two marks (`once_run`). A closed
circuit has always failed fewer times in a row than its threshold (`belowThreshold_run`), so it
opens at the failure that reaches the threshold and at no other (`opened_iff_of_closed`).
-/

namespace Safeguard

/-- What a move leaves for the counters. -/
inductive Mark
  | succeeded (call : Nat)
  | failed (call time : Nat)
  | wasReset
  deriving DecidableEq

namespace Mark

/-- The call that settled. -/
def call? : Mark → Option Nat
  | succeeded call | failed call _ => some call
  | wasReset => none

/-- Whether a call has succeeded. -/
def isSuccess : Mark → Bool
  | succeeded _ => true
  | _ => false

/-- Whether a call has failed or timed out. -/
def isFailure : Mark → Bool
  | failed .. => true
  | _ => false

/-- When the call failed. -/
def failedAt? : Mark → Option Nat
  | failed _ time => some time
  | _ => none

/-- The marks since the last reset. -/
def sinceReset (marks : List Mark) : List Mark := marks.takeWhile (· ≠ wasReset)

/-- The failures since the latest of the start, the last reset and the last success. -/
def failuresInARow (marks : List Mark) : Nat := (marks.takeWhile isFailure).length

/-- The successes since the start or the last reset. -/
def successes (marks : List Mark) : Nat := (sinceReset marks).countP isSuccess

/-- The time of the last failure since the start or the last reset. -/
def lastFailure? (marks : List Mark) : Option Nat := (sinceReset marks).findSome? failedAt?

section Cons

variable (call time : Nat) (marks : List Mark)

@[simp] theorem failuresInARow_succeeded : failuresInARow (succeeded call :: marks) = 0 := rfl

@[simp] theorem failuresInARow_failed :
    failuresInARow (failed call time :: marks) = failuresInARow marks + 1 := rfl

@[simp] theorem successes_succeeded :
    successes (succeeded call :: marks) = successes marks + 1 := List.countP_cons_of_pos rfl

@[simp] theorem successes_failed : successes (failed call time :: marks) = successes marks :=
  List.countP_cons_of_neg (by simp [isSuccess])

@[simp] theorem lastFailure?_succeeded :
    lastFailure? (succeeded call :: marks) = lastFailure? marks := rfl

@[simp] theorem lastFailure?_failed : lastFailure? (failed call time :: marks) = some time := rfl

end Cons

end Mark

/-- The counters of a circuit agree with the marks. -/
structure Circuit.Counts (c : Circuit) (marks : List Mark) : Prop where
  failures : c.failures = min maxWord32 (Mark.failuresInARow marks)
  successes : c.successes = Mark.successes marks
  lastFailure : c.lastFailure = Mark.lastFailure? marks

namespace Circuit.Counts

variable {c : Circuit} {marks : List Mark}

theorem start : ({} : Circuit).Counts [] where
  failures := rfl
  successes := rfl
  lastFailure := rfl

theorem reset (marks : List Mark) : ({} : Circuit).Counts (.wasReset :: marks) where
  failures := rfl
  successes := rfl
  lastFailure := rfl

/-- Counters that stay as they are go on to agree with the marks. -/
theorem congr {c' : Circuit} (h : c.Counts marks)
    (same : c'.failures = c.failures ∧ c'.successes = c.successes ∧
      c'.lastFailure = c.lastFailure) : c'.Counts marks where
  failures := same.1.trans h.failures
  successes := same.2.1.trans h.successes
  lastFailure := same.2.2.trans h.lastFailure

theorem succeed (h : c.Counts marks) (call : Nat) :
    c.succeed.Counts (.succeeded call :: marks) where
  failures := by simp
  successes := by simp [h.successes]
  lastFailure := by simp [h.lastFailure]

theorem fail (h : c.Counts marks) (p : BreakerPolicy) (call now : Nat) :
    (c.fail p now).Counts (.failed call now :: marks) where
  failures := by
    rw [failures_fail, h.failures, Mark.failuresInARow_failed, maxWord32]
    omega
  successes := by simp [h.successes]
  lastFailure := by simp

end Circuit.Counts

namespace Traffic

variable {α : Type} {t t' : Traffic} {move : Move α}

/-- The mark of a move. -/
def mark? (t : Traffic) : Move α → Option Mark
  | .reset => some .wasReset
  | move =>
    (t.outcome? move).map fun (call, success) =>
      if success then .succeeded call else .failed call t.now

/-- The marks of a run, the latest first. -/
def marks (t : Traffic) : List (Move α) → List Mark
  | [] => []
  | move :: moves => (t.step move).marks moves ++ (t.mark? move).toList

theorem marks_concat (t : Traffic) (moves : List (Move α)) (move : Move α) :
    t.marks (moves ++ [move]) = ((t.run moves).mark? move).toList ++ t.marks moves := by
  induction moves generalizing t with
  | nil => simp [marks]
  | cons first moves ih =>
    simp only [List.cons_append, marks, ih, List.append_assoc]
    rfl

theorem mark?_of_outcome {call : Nat} {success : Bool}
    (outcome : t.outcome? move = some (call, success)) :
    t.mark? move = some (if success then .succeeded call else .failed call t.now) := by
  cases move with
  | reset => cases outcome
  | _ => simp only [mark?, outcome, Option.map_some]

/-- Only a settlement and a reset leave a mark. -/
theorem mark?_eq_none (outcome : t.outcome? move = none) (no_reset : move ≠ .reset) :
    t.mark? move = none := by
  cases move with
  | reset => exact absurd rfl no_reset
  | _ => simp only [mark?, outcome, Option.map_none]

/-! ## The counters -/

/-- A move that is neither a settlement nor a reset changes no counter. -/
theorem same_counters (c : Change t move t') (outcome : t.outcome? move = none)
    (no_reset : move ≠ .reset) :
    t'.circuit.failures = t.circuit.failures ∧ t'.circuit.successes = t.circuit.successes ∧
      t'.circuit.lastFailure = t.circuit.lastFailure := by
  cases c with
  | succeeded _ settles => cases outcome.symm.trans settles
  | failed _ _ settles => cases outcome.symm.trans settles
  | wasReset => exact absurd rfl no_reset
  | dropped => exact Circuit.abandon_counters _ _
  | _ => exact ⟨rfl, rfl, rfl⟩

theorem counts_change {marks : List Mark} (h : t.circuit.Counts marks) (c : Change t move t') :
    t'.circuit.Counts ((t.mark? move).toList ++ marks) := by
  have unmarked (outcome : t.outcome? move = none) (no_reset : move ≠ .reset) :
      t'.circuit.Counts ((t.mark? move).toList ++ marks) := by
    rw [mark?_eq_none outcome no_reset]
    exact h.congr (same_counters c outcome no_reset)
  cases c with
  | @succeeded _ call _ _ outcome =>
    rw [mark?_of_outcome outcome]
    exact h.succeed call
  | @failed _ call _ _ _ outcome =>
    rw [mark?_of_outcome outcome]
    exact h.fail t.breaker.policy call t.now
  | wasReset => exact .reset marks
  | idle about outcome =>
    refine unmarked outcome ?_
    rintro rfl
    cases about
  | _ => exact unmarked rfl (by simp)

theorem counts_run (name : String) (policy : BreakerPolicy) (clock : Clock)
    (moves : List (Move α)) :
    ((start name policy clock).run moves).circuit.Counts
      ((start name policy clock).marks moves) := by
  induction moves using List.reverseRecOn with
  | nil => exact .start
  | append_singleton moves move ih =>
    rw [run_concat, marks_concat]
    exact counts_change ih (change_step _ move)

/-! ## Each call once -/

/-- No call has left two marks, and a call that has left one is gone. -/
structure Once (t : Traffic) (marks : List Mark) : Prop where
  nodup : (marks.filterMap Mark.call?).Nodup
  gone : ∀ i ∈ marks.filterMap Mark.call?, t.calls i = none ∧ i < t.admitted

namespace Once

variable {marks : List Mark}

/-- Marks of calls that are gone stay so if no call comes back. -/
theorem congr (h : t.Once marks)
    (kept : ∀ i, t.calls i = none → i < t.admitted → t'.calls i = none ∧ i < t'.admitted) :
    t'.Once marks where
  nodup := h.nodup
  gone i mem := kept i (h.gone i mem).1 (h.gone i mem).2

/-- A call that settles has left no mark before. -/
theorem settle (h : t.Once marks) (numbered : t.Numbered) {mark : Mark} {call : Nat} {p : Passage}
    (about : mark.call? = some call) (out : t.calls call = some p) (b : Breaker)
    (notices : List Notice) : ((t.turn b notices).leave call).Once (mark :: marks) where
  nodup := by
    rw [List.filterMap_cons_some about, List.nodup_cons]
    refine ⟨fun mem => ?_, h.nodup⟩
    simp [(h.gone call mem).1] at out
  gone i mem := by
    rw [List.filterMap_cons_some about, List.mem_cons] at mem
    rcases mem with rfl | mem
    · exact ⟨by simp [leave], numbered.calls_lt _ p out⟩
    · refine ⟨?_, (h.gone i mem).2⟩
      by_cases eq : i = call
      · simp [leave, eq]
      · simp [leave, eq, (h.gone i mem).1]

theorem change (h : t.Once marks) (numbered : t.Numbered) (c : Change t move t') :
    t'.Once ((t.mark? move).toList ++ marks) := by
  cases c with
  | passed | tried | retried =>
    refine h.congr fun i none lt => ⟨?_, lt.trans (Nat.lt_succ_self _)⟩
    exact (calls_letThrough_of_ne (t.turn _ _) _ _ lt.ne).trans none
  | refused | forcedOpen | waited => exact h.congr fun _ none lt => ⟨none, lt⟩
  | succeeded out outcome =>
    rw [mark?_of_outcome outcome]
    exact h.settle numbered rfl out _ _
  | failed _ out outcome =>
    rw [mark?_of_outcome outcome]
    exact h.settle numbered rfl out _ _
  | @dropped call =>
    refine h.congr fun i none lt => ⟨?_, lt⟩
    by_cases eq : i = call
    · simp [giveUp, leave, eq]
    · simpa [giveUp, leave, eq] using none
  | wasReset => exact { h with }
  | idle about outcome =>
    have no_reset : move ≠ .reset := by
      rintro rfl
      cases about
    rw [mark?_eq_none outcome no_reset]
    exact h

end Once

theorem once_run (name : String) (policy : BreakerPolicy) (clock : Clock)
    (moves : List (Move α)) :
    ((start name policy clock).run moves).Numbered ∧
      ((start name policy clock).run moves).Once ((start name policy clock).marks moves) := by
  induction moves using List.reverseRecOn with
  | nil => exact ⟨numbered_start name policy clock, List.nodup_nil, by simp [marks]⟩
  | append_singleton moves move ih =>
    obtain ⟨numbered, once⟩ := ih
    rw [run_concat, marks_concat]
    have c := change_step ((start name policy clock).run moves) move
    exact ⟨numbered.change c, once.change numbered c⟩

/-! ## The threshold -/

/-- A closed circuit has not reached its threshold. -/
def BelowThreshold (t : Traffic) : Prop :=
  t.state = .closed → t.circuit.failures < t.breaker.policy.failureThreshold.toNat

theorem BelowThreshold.change (h : t.BelowThreshold)
    (positive : 0 < t.breaker.policy.failureThreshold.toNat) (c : Change t move t') :
    t'.BelowThreshold := by
  intro closed
  cases c with
  | passed _ | refused | waited | idle => exact h closed
  | tried | forcedOpen => cases closed
  | retried _ halfOpen => cases halfOpen.symm.trans closed
  | succeeded => exact (Circuit.failures_succeed _).trans_lt positive
  | failed => exact Circuit.failures_fail_lt closed
  | dropped =>
    rw [state_giveUp] at closed
    exact (Circuit.abandon_counters _ _).1.trans_lt (h closed)
  | wasReset => exact positive

theorem belowThreshold_run (name : String) (policy : BreakerPolicy) (clock : Clock)
    (positive : 0 < policy.failureThreshold.toNat) (moves : List (Move α)) :
    ((start name policy clock).run moves).BelowThreshold := by
  have inv := run_induction
    (P := fun t => t.breaker.SameGuard (Breaker.create name policy clock) ∧ t.BelowThreshold)
    (t := start name policy clock) ⟨.refl _, fun _ => positive⟩ moves ?_
  · exact inv.2
  · rintro t t' move - ⟨guard, below⟩ c
    refine ⟨(sameGuard_change c).trans guard, below.change ?_ c⟩
    rw [guard.2.1]
    exact positive

/-- A closed circuit below its threshold is opened by force and by the failure that reaches the
threshold, and by nothing else. -/
theorem opened_iff_of_closed (below : t.BelowThreshold) (closed : t.state = .closed)
    (c : Change t move t') :
    t'.state = .opened ↔ move = .forceOpen ∨ (∃ i, t.outcome? move = some (i, false)) ∧
      t'.circuit.failures = t.breaker.policy.failureThreshold.toNat := by
  have stays (kept : t'.state ≠ .opened) (no_force : move ≠ .forceOpen)
      (no_failure : ∀ i, t.outcome? move ≠ some (i, false)) :
      t'.state = .opened ↔ move = .forceOpen ∨ (∃ i, t.outcome? move = some (i, false)) ∧
        t'.circuit.failures = t.breaker.policy.failureThreshold.toNat := by
    refine iff_of_false kept ?_
    rintro (force | ⟨⟨i, failure⟩, -⟩)
    · exact no_force force
    · exact no_failure i failure
  have unforced {i : Nat} {success : Bool} (outcome : t.outcome? move = some (i, success)) :
      move ≠ .forceOpen := by
    rintro rfl
    cases outcome
  have ne : t.state ≠ .opened := by simp [closed]
  cases c with
  | passed | refused | waited => exact stays ne (by simp) (by simp [outcome?])
  | tried _ opened => cases opened.symm.trans closed
  | retried _ halfOpen => cases halfOpen.symm.trans closed
  | succeeded _ outcome =>
    refine stays ?_ (unforced outcome) (by simp [outcome])
    change t.circuit.succeed.state ≠ .opened
    simp [Circuit.state_succeed, closed]
  | @failed _ call _ _ _ outcome =>
    have lt := below closed
    have word := t.breaker.policy.failureThreshold.toNat_lt
    change (t.circuit.fail t.breaker.policy t.now).state = .opened ↔ _ ∨ _ ∧
      (t.circuit.fail t.breaker.policy t.now).failures = _
    -- below the threshold, and so below the largest count, one more failure is one more
    have reached : t.circuit.AtThreshold t.breaker.policy ↔
        t.circuit.failures + 1 = t.breaker.policy.failureThreshold.toNat := by
      rw [Circuit.AtThreshold]
      omega
    have count : min (t.circuit.failures + 1) 4294967295 = t.circuit.failures + 1 := by omega
    simp [Circuit.state_fail, closed, reached, count, outcome, unforced outcome]
  | dropped => exact stays (t.state_giveUp .. ▸ ne) (by simp) (by simp [outcome?])
  | wasReset => exact stays (by simp [state]) (by simp) (by simp [outcome?])
  | forcedOpen => exact iff_of_true rfl (.inl rfl)
  | idle about outcome =>
    refine stays ne ?_ (by simp [outcome])
    rintro rfl
    cases about

/-! ## Runs -/

/-- **The counters are exact.** In every run they say what the marks say, in the circuit and in its
report; every call leaves at most one mark; a move that is neither a settlement nor a reset changes
no counter; and a closed breaker opens by force or at the failure that brings the count of failures
to the threshold, and by nothing else. -/
theorem counters_exact (name : String) (policy : BreakerPolicy) (clock : Clock)
    (positive : 1 ≤ policy.failureThreshold) (moves : List (Move α)) :
    let t := (start name policy clock).run moves
    let marks := (start name policy clock).marks moves
    let report := t.breaker.status t.now
    (t.circuit.failures = min maxWord32 (Mark.failuresInARow marks) ∧
        t.circuit.successes = Mark.successes marks ∧
        t.circuit.lastFailure = Mark.lastFailure? marks) ∧
      (report.failureCount.toNat = min maxWord32 (Mark.failuresInARow marks) ∧
        (Mark.successes marks < 2 ^ 64 → report.successCount.toNat = Mark.successes marks) ∧
        report.lastFailureTime = (Mark.lastFailure? marks).map t.breaker.anchor.unixMillis) ∧
      (marks.filterMap Mark.call?).Nodup ∧
      (∀ move : Move α, t.outcome? move = none → move ≠ .reset →
        let t' := t.step move
        t'.circuit.failures = t.circuit.failures ∧ t'.circuit.successes = t.circuit.successes ∧
          t'.circuit.lastFailure = t.circuit.lastFailure) ∧
      (t.state = .closed → ∀ move : Move α,
        let t' := t.step move
        t'.state = .opened ↔ move = .forceOpen ∨ (∃ i, t.outcome? move = some (i, false)) ∧
          t'.circuit.failures = policy.failureThreshold.toNat) := by
  intro t marks report
  have counts : t.circuit.Counts marks := counts_run name policy clock moves
  have guard : t.breaker.policy = policy := (sameGuard_run (start name policy clock) moves).2.1
  have positive : 0 < policy.failureThreshold.toNat := UInt32.le_iff_toNat_le.1 positive
  refine ⟨⟨counts.failures, counts.successes, counts.lastFailure⟩, ⟨?_, fun lt => ?_, ?_⟩,
    (once_run name policy clock moves).2.nodup, fun move => same_counters (change_step t move), ?_⟩
  · have word : t.circuit.failures < 2 ^ 32 := by
      rw [counts.failures, maxWord32]
      omega
    exact (UInt32.toNat_ofNat_of_lt' word).trans counts.failures
  · rw [← counts.successes] at lt ⊢
    exact UInt64.toNat_ofNat_of_lt' lt
  · exact congrArg (Option.map t.breaker.anchor.unixMillis) counts.lastFailure
  · intro closed move
    have below := belowThreshold_run name policy clock positive moves
    exact guard ▸ opened_iff_of_closed below closed (change_step t move)

/-- Three calls overlap. One succeeds between the failures of the others, so the second failure is
the first in a row and leaves a breaker of threshold two closed. -/
theorem counters_exact_overlapping :
    let t := (start "db" { failureThreshold := 2, recoveryTimeout := 100 } { wallStart := 0 }).run
      ([.arrive none, .arrive none, .arrive none, .reply 2 (.error "refused"), .reply 0 (.ok ()),
        .wait 5, .reply 1 (.error "refused")] : List (Move Unit))
    (1 : UInt32) ≤ 2 ∧ t.circuit.failures = 1 ∧ t.circuit.successes = 1 ∧
      t.circuit.lastFailure = some 5 ∧ t.state = .closed := by
  intro t
  obtain ⟨⟨failures, successes, lastFailure⟩, -⟩ :=
    counters_exact "db" { failureThreshold := 2, recoveryTimeout := 100 } { wallStart := 0 }
      (by decide)
      ([.arrive none, .arrive none, .arrive none, .reply 2 (.error "refused"), .reply 0 (.ok ()),
        .wait 5, .reply 1 (.error "refused")] : List (Move Unit))
  exact ⟨by decide, failures, successes, lastFailure, rfl⟩

end Traffic

end Safeguard
