import Mathlib.Data.Nat.Find
import Mathlib.Order.Bounds.Defs
import Safeguard.Proofs.Notice.Dated
import Safeguard.Proofs.Retry.Course

/-!
# The last attempt

How a retried operation goes is told by a rule that knows nothing of the loop. `Retry.begins` and
`Retry.ends` are a timetable of attempts without end: each begins when the wait after the one
before is over. `Retry.IsLast` says which attempts are not followed by another. The rule is that the
attempts are those of the timetable up to the first that is last, and that every attempt but this
one is announced as failed and to be retried.

`Retry.run` follows the rule (`Retry.run_follows_rule`): from any attempt on it does what the
timetable says, by induction on how many attempts are followed by another (`Retry.course_runFrom`).
An attempt after which the durations cannot be added up (`Retry.Overflows`) is the last one too, but
then nothing is passed on.
-/

namespace Safeguard

namespace Retry

variable {α ε : Type} (r : Retry ε) (script : Script α ε) (begun : Nat)

/-! ## The rule -/

/-- When the attempt after `k` others begins, if none of those is the last. -/
def begins : (k : Nat) → Nat
  | 0 => begun
  | k + 1 => due ((script k).finish (begins k)) (r.delay (k + 1))

/-- When the attempt after `k` others ends. -/
def ends (k : Nat) : Nat := (script k).finish (r.begins script begun k)

/-- After attempt `i` it is asked if the budget is overrun, and the time that would have passed is
too long for a duration. -/
def Overflows (i : Nat) : Prop :=
  ∃ error, (script (i - 1)).reply = .error error ∧
    r.verdict i (r.ends script begun (i - 1) - begun) error = .overflow

/-- Attempt `i` fails, and the verdict is that there is another. -/
def GoesOn (i : Nat) : Prop :=
  ∃ error, (script (i - 1)).reply = .error error ∧
    r.verdict i (r.ends script begun (i - 1) - begun) error = .again (r.delay i)

/-- A run makes the attempts after `k` others up to attempt `n`, and announces a retry after each
but the last. -/
structure Course [ToString ε] (k n : Nat) (run : Run (Reply α ε)) : Prop where
  invocations : run.invocations = (List.range' k (n - k)).map (r.begins script begun)
  reply : run.reply = (script (n - 1)).reply
  finished : run.finished = r.ends script begun (n - 1)
  announced_length : (Notice.told some run.notices).length = n - 1 - k
  announced (j : Nat) (lt : j < n - 1 - k) :
    ∃ error, (script (k + j)).reply = .error error ∧
      (Notice.told some run.notices)[j]? =
        some (r.ends script begun (k + j),
          .retryScheduled (k + j + 1) (r.delay (k + j + 1)) (toString error))

/-! ## The timetable -/

variable {r script begun}

/-- What can follow a failed attempt. -/
theorem verdict_cases (r : Retry ε) (attempt elapsed : Nat) (error : ε) :
    (r.policy.attempts ≤ attempt ∧ r.verdict attempt elapsed error = .exhausted) ∨
      (attempt < r.policy.attempts ∧ r.retryable error = false ∧
        r.verdict attempt elapsed error = .permanent) ∨
      (attempt < r.policy.attempts ∧ r.retryable error = true ∧ r.policy.maxElapsed = none ∧
        r.verdict attempt elapsed error = .again (r.delay attempt)) ∨
      attempt < r.policy.attempts ∧ r.retryable error = true ∧
        ∃ budget, r.policy.maxElapsed = some budget ∧
          ((longestDuration < elapsed + r.delay attempt ∧
              r.verdict attempt elapsed error = .overflow) ∨
            (elapsed + r.delay attempt ≤ longestDuration ∧
              budget < elapsed + r.delay attempt ∧
              r.verdict attempt elapsed error = .overBudget budget) ∨
            elapsed + r.delay attempt ≤ longestDuration ∧ elapsed + r.delay attempt ≤ budget ∧
              r.verdict attempt elapsed error = .again (r.delay attempt)) := by
  unfold verdict
  by_cases used_up : r.policy.attempts ≤ attempt
  · exact .inl ⟨used_up, if_pos used_up⟩
  rw [if_neg used_up]
  have lt : attempt < r.policy.attempts := Nat.lt_of_not_le used_up
  cases retryable : r.retryable error with
  | false => exact .inr (.inl ⟨lt, rfl, if_pos rfl⟩)
  | true =>
    rw [if_neg Bool.true_eq_false.mp]
    cases limited : r.policy.maxElapsed with
    | none => exact .inr (.inr (.inl ⟨lt, rfl, rfl, rfl⟩))
    | some budget =>
      refine .inr (.inr (.inr ⟨lt, rfl, budget, rfl, ?_⟩))
      by_cases long : elapsed + r.delay attempt ≤ longestDuration
      · simp only [durationSum?, if_pos long]
        rcases Nat.lt_or_ge budget (elapsed + r.delay attempt) with overrun | within
        · exact .inr (.inl ⟨long, overrun, if_pos overrun⟩)
        · exact .inr (.inr ⟨long, within, if_neg (Nat.not_lt.2 within)⟩)
      · simp only [durationSum?, if_neg long]
        exact .inl ⟨Nat.lt_of_not_le long, trivial⟩

/-- A failed attempt is followed by another after a wait, unless the attempts are used up, the error
is permanent, or the wait would overrun the budget or the range of durations. -/
theorem verdict_eq_again_iff {attempt elapsed delay : Nat} {error : ε} :
    r.verdict attempt elapsed error = .again delay ↔
      delay = r.delay attempt ∧ attempt < r.policy.attempts ∧ r.retryable error = true ∧
        ∀ budget, r.policy.maxElapsed = some budget →
          elapsed + r.delay attempt ≤ longestDuration ∧ elapsed + r.delay attempt ≤ budget := by
  obtain ⟨used_up, eq⟩ | ⟨-, permanent, eq⟩ | ⟨lt, retryable, unlimited, eq⟩ |
    ⟨lt, retryable, budget, limited, ⟨long, eq⟩ | ⟨-, overrun, eq⟩ | ⟨short, within, eq⟩⟩ :=
    r.verdict_cases attempt elapsed error <;> rw [eq]
  · simp [Nat.not_lt.2 used_up]
  · simp [permanent]
  · simp [lt, retryable, unlimited, eq_comm]
  · simp [limited, Nat.not_le.2 long]
  · simp [limited, Nat.not_le.2 overrun]
  · simp [lt, retryable, limited, short, within, eq_comm]

theorem verdict_eq_overflow_iff {attempt elapsed : Nat} {error : ε} :
    r.verdict attempt elapsed error = .overflow ↔
      attempt < r.policy.attempts ∧ r.retryable error = true ∧
        r.policy.maxElapsed.isSome = true ∧ longestDuration < elapsed + r.delay attempt := by
  obtain ⟨used_up, eq⟩ | ⟨-, permanent, eq⟩ | ⟨-, -, unlimited, eq⟩ |
    ⟨lt, retryable, budget, limited, ⟨long, eq⟩ | ⟨short, -, eq⟩ | ⟨short, -, eq⟩⟩ :=
    r.verdict_cases attempt elapsed error <;> rw [eq]
  · simp [Nat.not_lt.2 used_up]
  · simp [permanent]
  · simp [unlimited]
  · simp [lt, retryable, limited, long]
  · simp [Nat.not_lt.2 short]
  · simp [Nat.not_lt.2 short]

theorem GoesOn.lt_attempts {i : Nat} (goes_on : r.GoesOn script begun i) :
    i < r.policy.attempts := by
  obtain ⟨error, -, again⟩ := goes_on
  exact (verdict_eq_again_iff.1 again).2.1

/-- Not every attempt is followed by another: the attempts are used up. -/
theorem exists_not_goesOn (r : Retry ε) (script : Script α ε) (begun : Nat) :
    ∃ k, ¬ r.GoesOn script begun (k + 1) :=
  ⟨r.policy.attempts, fun goes_on => Nat.not_succ_le_self _ (Nat.le_of_lt goes_on.lt_attempts)⟩

theorem events_successNotices (attempt : Nat) : Notice.events (successNotices attempt) = [] := by
  unfold successNotices
  split <;> rfl

variable [ToString ε]

theorem events_failureNotices (attempt : Nat) (error : ε) {verdict : Verdict}
    (ends : ∀ delay, verdict ≠ .again delay) :
    Notice.events (r.failureNotices attempt error verdict) = [] := by
  cases verdict with
  | again delay => exact absurd rfl (ends delay)
  | exhausted | permanent | overBudget | overflow => rfl

/-- A run that ends with an attempt and announces nothing is the course of this attempt. -/
theorem course_lastAttempt (k : Nat) {notices : List Notice} (silent : Notice.events notices = []) :
    r.Course script begun k (k + 1)
      (lastAttempt script (k + 1) (r.begins script begun k) notices) := by
  have none_told : Notice.told some
      (lastAttempt script (k + 1) (r.begins script begun k) notices).notices = [] := by
    rw [lastAttempt, Notice.told_atInstant, silent]
    rfl
  refine ⟨?_, rfl, rfl, ?_, ?_⟩
  · rw [Nat.add_sub_cancel_left]
    rfl
  · rw [none_told]
    exact (Nat.sub_self k).symm
  · intro j lt
    omega

/-- An attempt that is not followed by another ends the run. -/
theorem course_of_not_goesOn {k : Nat} (last : ¬ r.GoesOn script begun (k + 1)) (left : Nat) :
    r.Course script begun k (k + 1)
      (r.runFrom script begun left (k + 1) (r.begins script begun k)) := by
  cases reply : (script (k + 1 - 1)).reply with
  | ok value =>
    have course : r.Course script begun k (k + 1)
        (lastAttempt script (k + 1) (r.begins script begun k) (successNotices (k + 1))) :=
      course_lastAttempt k (events_successNotices (k + 1))
    rw [lastAttempt, reply] at course
    rwa [r.runFrom_of_ok begun left (k + 1) _ reply]
  | error error =>
    have never : ∀ delay, r.verdict (k + 1)
        ((script (k + 1 - 1)).finish (r.begins script begun k) - begun) error ≠ .again delay := by
      intro delay again
      obtain ⟨rfl, -⟩ := verdict_eq_again_iff.1 again
      exact last ⟨error, reply, again⟩
    rw [r.runFrom_of_last reply (.inr never)]
    exact course_lastAttempt k (events_failureNotices (k + 1) error never)

/-- An attempt that is followed by others is announced. -/
theorem course_of_goesOn {k n : Nat} (lt : k + 1 < n) (goes_on : r.GoesOn script begun (k + 1))
    (rest : r.Course script begun (k + 1) n (r.runFrom script begun
      (r.policy.attempts - (k + 1 + 1)) (k + 1 + 1) (r.begins script begun (k + 1)))) :
    r.Course script begun k n (r.runFrom script begun
      (r.policy.attempts - (k + 1)) (k + 1) (r.begins script begun k)) := by
  have more : r.policy.attempts - (k + 1) = r.policy.attempts - (k + 1 + 1) + 1 := by
    have := goes_on.lt_attempts
    omega
  obtain ⟨error, reply, again⟩ := goes_on
  change r.verdict (k + 1) ((script (k + 1 - 1)).finish (r.begins script begun k) - begun) error =
    _ at again
  have next : due ((script (k + 1 - 1)).finish (r.begins script begun k)) (r.delay (k + 1)) =
      r.begins script begun (k + 1) := rfl
  rw [more, r.runFrom_of_again reply again, next]
  generalize r.runFrom script begun (r.policy.attempts - (k + 1 + 1)) (k + 1 + 1)
    (r.begins script begun (k + 1)) = others at rest
  -- the attempt itself is announced first
  have told : Notice.told some (followed script (k + 1) (r.begins script begun k)
        (r.failureNotices (k + 1) error (.again (r.delay (k + 1)))) others).notices =
      (r.ends script begun k, .retryScheduled (k + 1) (r.delay (k + 1)) (toString error)) ::
        Notice.told some others.notices := by
    rw [followed, Notice.told_append, Notice.told_atInstant]
    rfl
  refine ⟨?_, rest.reply, rest.finished, ?_, ?_⟩
  · have count : n - k = n - (k + 1) + 1 := by omega
    rw [count, List.range'_succ, List.map_cons, ← rest.invocations]
    rfl
  · have length := rest.announced_length
    rw [told, List.length_cons, length]
    omega
  · intro j lt'
    rw [told]
    cases j with
    | zero => exact ⟨error, reply, rfl⟩
    | succ j =>
      obtain ⟨error', reply', found⟩ := rest.announced j (by omega)
      have number : k + (j + 1) = k + 1 + j := by omega
      rw [number, List.getElem?_cons_succ]
      exact ⟨error', reply', found⟩

/-! ## The whole run -/

/-- From any attempt on, a run follows the timetable up to the first attempt that is not followed by
another. -/
theorem course_runFrom {k m : Nat} (last : ¬ r.GoesOn script begun (k + m + 1))
    (others : ∀ i, k < i → i ≤ k + m → r.GoesOn script begun i) :
    r.Course script begun k (k + m + 1) (r.runFrom script begun
      (r.policy.attempts - (k + 1)) (k + 1) (r.begins script begun k)) := by
  induction m generalizing k with
  | zero => exact course_of_not_goesOn last _
  | succ m ih =>
    have number : k + (m + 1) + 1 = k + 1 + m + 1 := by omega
    rw [number] at last ⊢
    apply course_of_goesOn (by omega) (others (k + 1) (by omega) (by omega))
    apply ih last
    intro i lt le
    exact others i (by omega) (by omega)

/-- A run follows the timetable to its first attempt that is not followed by another. -/
theorem exists_course (r : Retry ε) (script : Script α ε) (begun : Nat) :
    ∃ m, ¬ r.GoesOn script begun (m + 1) ∧ (∀ i, 0 < i → i ≤ m → r.GoesOn script begun i) ∧
      r.Course script begun 0 (m + 1) (r.run script begun) := by
  classical
  let m := Nat.find (r.exists_not_goesOn script begun)
  have last : ¬ r.GoesOn script begun (m + 1) := Nat.find_spec (r.exists_not_goesOn script begun)
  have others (i : Nat) (positive : 0 < i) (le : i ≤ m) : r.GoesOn script begun i := by
    obtain ⟨k, rfl⟩ := Nat.exists_eq_succ_of_ne_zero (Nat.ne_of_gt positive)
    exact not_not.1 (Nat.find_min (r.exists_not_goesOn script begun) le)
  have number : 0 + m + 1 = m + 1 := by omega
  have course := course_runFrom (k := 0) (m := m) (by rwa [number]) (by simpa using others)
  rw [number] at course
  exact ⟨m, last, others, course⟩

end Retry

end Safeguard
