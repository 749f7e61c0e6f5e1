import Mathlib.Data.List.Basic
import Safeguard.Retry.Run

/-!
# The course of a retried operation

What can be told of `Retry.run` whatever its script does. An attempt is the last one or is followed
by a wait and the attempts after it (`Retry.runFrom_cases`), and by induction on the attempts that
are left:

* the reply is that of the last attempt (`Retry.reply_run`);
* what is reported comes in order of time, between the first attempt and the end, and there are at
  most two notices for each attempt (`Retry.inOrder_run`, `Retry.length_notices_run`);
* a run that begins later by whole milliseconds is the same run, later (`Retry.run_later`), as long
  as the waits do not depend on chance.
-/

namespace Safeguard

/-! ## Timers and whole milliseconds -/

theorem ceilMilli_add {k : Nat} (whole : 1000000 ∣ k) (t : Nat) :
    ceilMilli (t + k) = ceilMilli t + k := by
  obtain ⟨n, rfl⟩ := whole
  simp only [ceilMilli]
  omega

theorem due_add {k : Nat} (whole : 1000000 ∣ k) (now d : Nat) :
    due (now + k) d = due now d + k := by
  unfold due
  rw [Nat.add_right_comm]
  exact ceilMilli_add whole _

theorem dvd_due (now d : Nat) : 1000000 ∣ due now d := Nat.dvd_mul_left _ _

namespace Outcome

variable {α ε : Type}

theorem finish_add (o : Outcome α ε) {k : Nat} (whole : 1000000 ∣ k) (begun : Nat) :
    o.finish (begun + k) = o.finish begun + k := by
  unfold finish
  split
  · exact due_add whole begun o.delay
  · exact Nat.add_right_comm begun k o.delay

/-- An invocation that begins at a whole millisecond and takes whole milliseconds ends at one. -/
theorem dvd_finish (o : Outcome α ε) (whole_delay : 1000000 ∣ o.delay) {begun : Nat}
    (whole : 1000000 ∣ begun) : 1000000 ∣ o.finish begun := by
  unfold finish
  split
  · exact dvd_due begun o.delay
  · exact Nat.dvd_add whole whole_delay

end Outcome

/-! ## Runs in order -/

namespace Run

variable {ρ : Type}

/-- What a run reports comes in order of time, between the instant at which it begins and its
end. -/
structure InOrder (begun : Nat) (r : Run ρ) : Prop where
  begun_le : begun ≤ r.finished
  sorted : r.notices.Pairwise fun a b => a.1 ≤ b.1
  within : ∀ n ∈ r.notices, begun ≤ n.1 ∧ n.1 ≤ r.finished

/-- The same run, later. -/
def later (k : Nat) (r : Run ρ) : Run ρ where
  reply := r.reply
  finished := r.finished + k
  invocations := r.invocations.map (· + k)
  notices := r.notices.map fun n => (n.1 + k, n.2)

end Run

theorem Notice.mem_atInstant {t : Nat} {notices : List Notice} {n : Nat × Notice}
    (h : n ∈ Notice.atInstant t notices) : n.1 = t := by
  obtain ⟨notice, -, rfl⟩ := List.mem_map.1 h
  rfl

theorem Notice.sorted_atInstant (t : Nat) (notices : List Notice) :
    (Notice.atInstant t notices).Pairwise fun a b => a.1 ≤ b.1 :=
  List.pairwise_map.2 (List.pairwise_of_forall fun _ _ => Nat.le_refl t)

namespace Retry

variable {α ε : Type} (r : Retry ε) (script : Script α ε)

/-! ## One attempt and the rest -/

/-- A run that ends with an attempt. -/
def lastAttempt (attempt now : Nat) (notices : List Notice) : Run (Reply α ε) where
  reply := (script (attempt - 1)).reply
  finished := (script (attempt - 1)).finish now
  invocations := [now]
  notices := Notice.atInstant ((script (attempt - 1)).finish now) notices

/-- A run that goes on after an attempt. -/
def followed (attempt now : Nat) (notices : List Notice) (rest : Run (Reply α ε)) :
    Run (Reply α ε) :=
  { rest with
    invocations := now :: rest.invocations
    notices :=
      Notice.atInstant ((script (attempt - 1)).finish now) notices ++ rest.notices }

theorem length_successNotices (attempt : Nat) : (successNotices attempt).length ≤ 2 := by
  unfold successNotices
  split <;> simp

theorem inOrder_lastAttempt (attempt now : Nat) (notices : List Notice) :
    (lastAttempt script attempt now notices).InOrder now where
  begun_le := Outcome.le_finish _ _
  sorted := Notice.sorted_atInstant _ _
  within n mem := by
    rw [Notice.mem_atInstant mem]
    exact ⟨Outcome.le_finish _ _, Nat.le_refl _⟩

section Runs

variable [ToString ε]

theorem length_failureNotices (attempt : Nat) (error : ε) (verdict : Verdict) :
    (r.failureNotices attempt error verdict).length ≤ 2 := by
  cases verdict <;> simp [failureNotices]

section Attempt

variable {script} {begun left attempt now : Nat} {error : ε}

theorem runFrom_of_last (reply : (script (attempt - 1)).reply = .error error)
    (last : left = 0 ∨
      ∀ delay, r.verdict attempt ((script (attempt - 1)).finish now - begun) error ≠
        .again delay) :
    r.runFrom script begun left attempt now =
      lastAttempt script attempt now
        (r.failureNotices attempt error
          (r.verdict attempt ((script (attempt - 1)).finish now - begun) error)) := by
  unfold runFrom
  cases verdict : r.verdict attempt ((script (attempt - 1)).finish now - begun) error with
  | again delay =>
    obtain rfl : left = 0 := last.resolve_right fun h => h delay verdict
    simp only [reply, verdict, lastAttempt]
  | exhausted | permanent | overBudget budget | overflow =>
    simp only [reply, verdict, lastAttempt]

theorem runFrom_of_again {delay : Nat} (reply : (script (attempt - 1)).reply = .error error)
    (again : r.verdict attempt ((script (attempt - 1)).finish now - begun) error =
      .again delay) :
    r.runFrom script begun (left + 1) attempt now =
      followed script attempt now (r.failureNotices attempt error (.again delay))
        (r.runFrom script begun left (attempt + 1)
          (due ((script (attempt - 1)).finish now) delay)) := by
  rw [runFrom]
  simp only [reply, again, followed]

end Attempt

/-- An attempt is the last one, or there is another one after a wait. -/
theorem runFrom_cases (begun left attempt now : Nat) :
    (∃ notices, notices.length ≤ 2 ∧
      r.runFrom script begun left attempt now = lastAttempt script attempt now notices) ∨
    ∃ left' delay notices, left = left' + 1 ∧ notices.length ≤ 2 ∧
      r.runFrom script begun left attempt now =
        followed script attempt now notices
          (r.runFrom script begun left' (attempt + 1)
            (due ((script (attempt - 1)).finish now) delay)) := by
  cases reply : (script (attempt - 1)).reply with
  | ok value =>
    refine .inl ⟨successNotices attempt, length_successNotices attempt, ?_⟩
    rw [r.runFrom_of_ok begun left attempt now reply, lastAttempt, reply]
  | error error =>
    by_cases last : left = 0 ∨
        ∀ delay, r.verdict attempt ((script (attempt - 1)).finish now - begun) error ≠
          .again delay
    · exact .inl ⟨_, r.length_failureNotices attempt error _, r.runFrom_of_last reply last⟩
    · push Not at last
      obtain ⟨more, delay, again⟩ := last
      obtain ⟨left, rfl⟩ := Nat.exists_eq_succ_of_ne_zero more
      exact .inr ⟨left, delay, _, rfl, r.length_failureNotices attempt error _,
        r.runFrom_of_again reply again⟩

/-- What holds of a run that ends with its first attempt, and of one that goes on if it holds of
what follows, holds of every run. -/
theorem runFrom_induction {motive : (left attempt now : Nat) → Run (Reply α ε) → Prop}
    (last : ∀ left attempt now notices, notices.length ≤ 2 →
      motive left attempt now (lastAttempt script attempt now notices))
    (goesOn : ∀ left attempt now delay notices rest, notices.length ≤ 2 →
      motive left (attempt + 1) (due ((script (attempt - 1)).finish now) delay) rest →
      motive (left + 1) attempt now (followed script attempt now notices rest))
    (begun left attempt now : Nat) :
    motive left attempt now (r.runFrom script begun left attempt now) := by
  induction left generalizing attempt now with
  | zero =>
    obtain ⟨notices, few, eq⟩ | ⟨left, _, _, h, -⟩ := r.runFrom_cases script begun 0 attempt now
    · rw [eq]
      exact last 0 attempt now notices few
    · omega
  | succ left ih =>
    obtain ⟨notices, few, eq⟩ | ⟨left', delay, notices, h, few, eq⟩ :=
      r.runFrom_cases script begun (left + 1) attempt now
    · rw [eq]
      exact last (left + 1) attempt now notices few
    · obtain rfl : left' = left := by omega
      rw [eq]
      exact goesOn left' attempt now delay notices _ few (ih _ _)

/-! ## The last attempt -/

/-- The reply of a run is that of its last attempt. -/
theorem reply_run (begun : Nat) :
    (r.run script begun).reply =
      (script ((r.run script begun).invocations.length - 1)).reply := by
  have last := r.runFrom_induction script
    (motive := fun _ attempt _ run => 1 ≤ attempt →
      1 ≤ run.invocations.length ∧
        run.reply = (script (attempt - 1 + (run.invocations.length - 1))).reply)
    (fun _ _ _ _ _ _ => ⟨Nat.le_refl 1, rfl⟩)
    (fun left attempt now delay notices rest _ ih first => by
      obtain ⟨tried, reply⟩ := ih (Nat.le_add_left 1 attempt)
      simp only [followed, List.length_cons]
      refine ⟨Nat.le_add_left 1 _, reply.trans ?_⟩
      congr 2
      omega)
    begun (r.policy.attempts - 1) 1 begun (Nat.le_refl 1)
  have reply := last.2
  rw [Nat.sub_self, Nat.zero_add] at reply
  exact reply

/-! ## What is reported -/

theorem inOrder_run (begun : Nat) : (r.run script begun).InOrder begun := by
  refine r.runFrom_induction script (motive := fun _ _ now run => run.InOrder now)
    (fun _ attempt now notices _ => inOrder_lastAttempt script attempt now notices) ?_
    begun (r.policy.attempts - 1) 1 begun
  intro left attempt now delay notices rest _ ih
  have ended : now ≤ (script (attempt - 1)).finish now := Outcome.le_finish _ _
  have wait : (script (attempt - 1)).finish now ≤ due ((script (attempt - 1)).finish now) delay :=
    Nat.le_trans (Nat.le_add_right _ _) (le_due _ _)
  refine ⟨?_, ?_, ?_⟩
  · exact Nat.le_trans ended (Nat.le_trans wait ih.begun_le)
  · refine List.pairwise_append.2 ⟨Notice.sorted_atInstant _ _, ih.sorted, ?_⟩
    intro a ha b hb
    rw [Notice.mem_atInstant ha]
    exact Nat.le_trans wait (ih.within b hb).1
  · intro n mem
    rcases List.mem_append.1 mem with mem | mem
    · rw [Notice.mem_atInstant mem]
      exact ⟨ended, Nat.le_trans wait ih.begun_le⟩
    · obtain ⟨after, before⟩ := ih.within n mem
      exact ⟨Nat.le_trans (Nat.le_trans ended wait) after, before⟩

/-- There are at most two notices for each attempt. -/
theorem length_notices_run (begun : Nat) :
    (r.run script begun).notices.length ≤ 2 * (r.policy.attempts - 1) + 2 := by
  refine r.runFrom_induction script
    (motive := fun left _ _ run => run.notices.length ≤ 2 * left + 2) ?_ ?_
    begun (r.policy.attempts - 1) 1 begun
  · intro left attempt now notices few
    simp only [lastAttempt, Notice.atInstant, List.length_map]
    omega
  · intro left attempt now delay notices rest few ih
    simp only [followed, Notice.atInstant, List.length_append, List.length_map]
    omega

/-- A run that begins at a whole millisecond, and whose attempts take whole milliseconds, ends at a
whole millisecond. -/
theorem dvd_finished_run (whole_delays : ∀ n, 1000000 ∣ (script n).delay) {begun : Nat}
    (whole : 1000000 ∣ begun) : 1000000 ∣ (r.run script begun).finished := by
  refine r.runFrom_induction script
    (motive := fun _ _ now run => 1000000 ∣ now → 1000000 ∣ run.finished) ?_ ?_
    begun (r.policy.attempts - 1) 1 begun whole
  · intro left attempt now notices _ whole
    exact Outcome.dvd_finish _ (whole_delays _) whole
  · intro left attempt now delay notices rest _ ih _
    exact ih (dvd_due _ _)

end Runs

/-! ## The same run, later -/

variable {r} {r' : Retry ε}

/-- Two ways of retrying that do the same: their waits do not differ. -/
structure Agrees (r r' : Retry ε) : Prop where
  policy : r.policy = r'.policy
  retryable : r.retryable = r'.retryable
  delay : r.delay = r'.delay

/-- Without jitter the draws do not matter. -/
theorem agrees_ofPolicy {policy : RetryPolicy} (steady : policy.jitter = false)
    (draw draw' : Nat → Float) : Agrees (ofPolicy policy draw) (ofPolicy policy draw') where
  policy := rfl
  retryable := rfl
  delay := by
    funext attempt
    simp [delay, ofPolicy, RetryPolicy.backoff, steady]

theorem Agrees.verdict (same : Agrees r r') : r.verdict = r'.verdict := by
  funext attempt elapsed error
  simp only [Retry.verdict, same.policy, same.retryable, same.delay]

theorem Agrees.failureNotices [ToString ε] (same : Agrees r r') :
    r.failureNotices = r'.failureNotices := by
  funext attempt error verdict
  cases verdict <;> simp only [Retry.failureNotices, same.policy]

theorem later_atInstant (k t : Nat) (notices : List Notice) :
    (Notice.atInstant t notices).map (fun n => (n.1 + k, n.2)) =
      Notice.atInstant (t + k) notices := by
  simp [Notice.atInstant]

section Later

variable {k : Nat} (whole : 1000000 ∣ k) (begun attempt now : Nat)

include whole

theorem lastAttempt_later (notices : List Notice) :
    lastAttempt script attempt (now + k) notices =
      (lastAttempt script attempt now notices).later k := by
  simp only [lastAttempt, Run.later, Outcome.finish_add _ whole, later_atInstant, List.map_cons,
    List.map_nil]

theorem followed_later (notices : List Notice) (rest : Run (Reply α ε)) :
    followed script attempt (now + k) notices (rest.later k) =
      (followed script attempt now notices rest).later k := by
  simp only [followed, Run.later, Outcome.finish_add _ whole, later_atInstant, List.map_cons,
    List.map_append]

/-- The budget is counted from the beginning, so later it sees the same time pass. -/
theorem elapsed_later (o : Outcome α ε) :
    o.finish (now + k) - (begun + k) = o.finish now - begun := by
  rw [o.finish_add whole, Nat.add_sub_add_right]

variable [ToString ε]

theorem runFrom_later_of_ok {value : α} (reply : (script (attempt - 1)).reply = .ok value)
    (left : Nat) :
    r.runFrom script (begun + k) left attempt (now + k) =
      (r'.runFrom script begun left attempt now).later k := by
  rw [runFrom_of_ok _ _ _ _ _ reply, runFrom_of_ok _ _ _ _ _ reply]
  simp only [Run.later, Outcome.finish_add _ whole, later_atInstant, List.map_cons, List.map_nil]

theorem runFrom_later_of_last (same : Agrees r r') {error : ε}
    (reply : (script (attempt - 1)).reply = .error error) {left : Nat}
    (last : left = 0 ∨
      ∀ delay, r'.verdict attempt ((script (attempt - 1)).finish now - begun) error ≠
        .again delay) :
    r.runFrom script (begun + k) left attempt (now + k) =
      (r'.runFrom script begun left attempt now).later k := by
  rw [r.runFrom_of_last reply (by rwa [elapsed_later whole, same.verdict]),
    r'.runFrom_of_last reply last, elapsed_later whole, same.verdict, same.failureNotices]
  exact lastAttempt_later script whole attempt now _

theorem runFrom_later (same : Agrees r r') (left : Nat) :
    r.runFrom script (begun + k) left attempt (now + k) =
      (r'.runFrom script begun left attempt now).later k := by
  induction left generalizing attempt now with
  | zero =>
    cases reply : (script (attempt - 1)).reply with
    | ok value => exact runFrom_later_of_ok script whole begun attempt now reply 0
    | error error =>
      exact runFrom_later_of_last script whole begun attempt now same reply (.inl rfl)
  | succ left ih =>
    cases reply : (script (attempt - 1)).reply with
    | ok value => exact runFrom_later_of_ok script whole begun attempt now reply (left + 1)
    | error error =>
      by_cases again : ∃ delay,
          r'.verdict attempt ((script (attempt - 1)).finish now - begun) error = .again delay
      · obtain ⟨delay, again⟩ := again
        rw [r.runFrom_of_again reply (by rw [elapsed_later whole, same.verdict, again]),
          r'.runFrom_of_again reply again, Outcome.finish_add _ whole, due_add whole, ih,
          same.failureNotices]
        exact followed_later script whole attempt now _ _
      · push Not at again
        exact runFrom_later_of_last script whole begun attempt now same reply (.inr again)

end Later

/-- A run that begins later by whole milliseconds is the same run, later. -/
theorem run_later [ToString ε] (same : Agrees r r') {k : Nat} (whole : 1000000 ∣ k) (begun : Nat) :
    r.run script (begun + k) = (r'.run script begun).later k := by
  unfold run
  rw [same.policy]
  exact runFrom_later script whole begun 1 begun same _

end Retry

end Safeguard
