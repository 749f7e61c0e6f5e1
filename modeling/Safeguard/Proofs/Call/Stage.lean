import Safeguard.Proofs.Call.Journey
import Safeguard.Proofs.Registry.Changes
import Safeguard.Proofs.Retry.Course
import Safeguard.Proofs.Retry.Polling

/-!
# How far a retried call is

A protected, retried call goes on when something comes of it: its operation replies, as its script
says, or a pause is over. What is ahead of it is `Retry.runFrom` from the attempt that is under way
or comes after the pause: `InFlight.Stage` says that the run which the call would make alone goes on
from there.

The registry has no part in that. Whatever it is when the call is polled, the call goes on as the
run does and leaves the registry as it is, or it settles as the run ends (`InFlight.Stage.next`). A
poll before that changes nothing (`InFlight.Stage.poll_before`), nor does time that passes
(`InFlight.Stage.wait`).
-/

namespace Safeguard

/-! ## Runs and what came before -/

/-- A run with what came before it. -/
def Run.preceded {ρ : Type} (invocations : List Nat) (notices : List (Nat × Notice)) (r : Run ρ) :
    Run ρ :=
  { r with invocations := invocations ++ r.invocations, notices := notices ++ r.notices }

namespace Retry

/-- A run begins with an attempt. -/
theorem now_isPrefix_invocations {α : Type} (r : Retry) (script : Script α)
    (begun left attempt now : Nat) :
    [now] <+: (r.runFrom script begun left attempt now).invocations := by
  obtain ⟨_, -, eq⟩ | ⟨_, _, _, -, -, eq⟩ := r.runFrom_cases script begun left attempt now
  · rw [eq]
    exact List.prefix_rfl
  · rw [eq]
    exact List.prefix_append [now] _

end Retry

/-! ## Calls on their way -/

namespace InFlight

variable {α : Type}

/-- How often something may still come of a retried call. -/
def remaining (c : InFlight α) : Nat :=
  match c.retries with
  | some (_, sequence) => 2 * sequence.left + if sequence.resumeAt.isSome then 2 else 1
  | none => 0

/-- A retried call without a limit. -/
def retried (name : String) (permit : Permit) (begun : Nat) (retry : Retry) (sequence : Sequence)
    (invocations : List Nat) (replies : List (Reply α)) : InFlight α :=
  { dependency := name, permit, begun, limit := none, retries := some (retry, sequence)
    replies, invocations }

section Awaits

variable (name : String) (permit : Permit) (begun : Nat) (retry : Retry) (script : Script α)
  (left attempt : Nat) (invocations : List Nat)

/-- An attempt that is under way ends as its script says. -/
theorem answer?_attempt (started : Nat) :
    (retried name permit begun retry { begun, attempt, left } (invocations ++ [started])
      []).answer? (.ofScript script) =
        some ((script (attempt - 1)).finish started, (script (attempt - 1)).reply) := by
  simp only [answer?, underWay?, retried, Replies.ofScript, Option.bind_some,
    List.getLast?_concat, Option.map_some]

theorem awaited?_attempt (started : Nat) :
    (retried name permit begun retry { begun, attempt, left } (invocations ++ [started])
      []).awaited? (.ofScript script) = some ((script (attempt - 1)).finish started) := by
  rw [awaited?, answer?_attempt]
  rfl

theorem awaited?_pause (replies : Replies α) (resumeAt : Nat) :
    (retried name permit begun retry { begun, attempt, left, resumeAt := some resumeAt }
      invocations []).awaited? replies = some resumeAt := rfl

theorem received_pause (replies : Replies α) (resumeAt t : Nat) :
    (retried name permit begun retry { begun, attempt, left, resumeAt := some resumeAt }
      invocations []).received replies t =
        retried name permit begun retry { begun, attempt, left, resumeAt := some resumeAt }
          invocations [] := rfl

end Awaits

section Poll

variable {name : String} {permit : Permit} {begun : Nat} {retry : Retry} {sequence : Sequence}
  {invocations : List Nat} {now : Nat} {replies : List (Reply α)}

/-- A poll that finds the sequence over ends the call. -/
theorem poll_of_over {polled : Polled (Sequence.Result α) α} {reply : Reply α}
    (found : retry.poll sequence now replies = polled) (is_over : polled.result = .over reply)
    (r : Registry) :
    (retried name permit begun retry sequence invocations replies).poll r now =
      (.ended (.ofReply reply) (invocations ++ polled.invocations),
        (r.settle now name (.ofReply reply)).1,
        polled.notices ++ (r.settle now name (.ofReply reply)).2) := by
  subst found
  simp only [poll, advance, retried, Polled.map, is_over]
  rfl

/-- A poll that finds the sequence waiting leaves the registry as it is. -/
theorem poll_of_waiting {polled : Polled (Sequence.Result α) α} {sequence' : Sequence}
    (found : retry.poll sequence now replies = polled)
    (waiting : polled.result = .waiting sequence') (r : Registry) :
    (retried name permit begun retry sequence invocations replies).poll r now =
      (.pending (retried name permit begun retry sequence' (invocations ++ polled.invocations)
        polled.replies), r, polled.notices) := by
  subst found
  simp only [poll, advance, retried, Polled.map, waiting]
  rfl

/-- A poll that finds nothing new changes nothing. -/
theorem poll_of_unchanged
    (found : retry.poll sequence now ([] : List (Reply α)) =
      { result := .waiting sequence, replies := [] }) (r : Registry) :
    (retried (α := α) name permit begun retry sequence invocations []).poll r now =
      (.pending (retried name permit begun retry sequence invocations []), r, []) := by
  rw [poll_of_waiting found rfl r, List.append_nil]

/-- A poll without a reply finds nothing of an attempt. -/
theorem poll_attempt (left attempt : Nat) (r : Registry) :
    (retried (α := α) name permit begun retry { begun, attempt, left } invocations []).poll r now =
      (.pending (retried name permit begun retry { begun, attempt, left } invocations []), r,
        []) := by
  have waits : retry.poll { begun, attempt, left } now ([] : List (Reply α)) =
      { result := .waiting { begun, attempt, left }, replies := [] } := Retry.pollAttempt.eq_1 ..
  exact poll_of_unchanged waits r

end Poll

/-! ## How far a call is -/

section Stage

variable (name : String) (permit : Permit) (begun : Nat) (retry : Retry) (script : Script α)
  (alone : Run (Reply α))

/-- How far a retried call is at an instant: what it has reported, and that the run that it makes
alone goes on from here. -/
inductive Stage : InFlight α → (now : Nat) → (done : List (Nat × Notice)) → Prop
  /-- An attempt is under way. -/
  | attempt {left attempt started now : Nat} {invocations : List Nat}
      {done : List (Nat × Notice)}
      (ahead : alone =
        (retry.runFrom script begun left attempt started).preceded invocations done)
      (now_le : now ≤ (script (attempt - 1)).finish started) :
      Stage (retried name permit begun retry { begun, attempt, left } (invocations ++ [started]) [])
        now done
  /-- The next attempt comes after a pause. -/
  | pause {left attempt resumeAt now : Nat} {invocations : List Nat}
      {done : List (Nat × Notice)}
      (ahead : alone =
        (retry.runFrom script begun left attempt resumeAt).preceded invocations done)
      (now_le : now ≤ resumeAt) :
      Stage (retried name permit begun retry
        { begun, attempt, left, resumeAt := some resumeAt } invocations []) now done

/-- What comes of a call at an instant: it goes on and leaves the registry as it is, or it settles
as the run that it makes alone ends. -/
inductive Next (t : Nat) (c c' : InFlight α) (done : List (Nat × Notice)) : Prop
  | goesOn {c'' : InFlight α} {notices : List Notice}
      (poll : ∀ r, c'.poll r t = (.pending c'', r, notices))
      (stage : Stage name permit begun retry script alone c'' t
        (done ++ Notice.atInstant t notices))
      (less : c''.remaining < c.remaining)
  | ends {notices : List Notice} (on_time : t = alone.finished)
      (reported : alone.notices = done ++ Notice.atInstant t notices)
      (poll : ∀ r, c'.poll r t =
        (.ended (.ofReply alone.reply) alone.invocations,
          (r.settle t name (.ofReply alone.reply)).1,
          notices ++ (r.settle t name (.ofReply alone.reply)).2))

variable {name permit begun retry script alone} {c : InFlight α} {now : Nat}
  {done : List (Nat × Notice)}

theorem preceded_followed (attempt now : Nat) (notices : List Notice) (rest : Run (Reply α))
    (invocations : List Nat) (done : List (Nat × Notice)) :
    (Retry.followed script attempt now notices rest).preceded invocations done =
      rest.preceded (invocations ++ [now])
        (done ++ Notice.atInstant ((script (attempt - 1)).finish now) notices) := by
  simp only [Run.preceded, Retry.followed, List.append_assoc, List.singleton_append]

/-- The operation replies. -/
theorem next_of_reply {left attempt started : Nat} {invocations : List Nat}
    (ahead : alone =
      (retry.runFrom script begun left attempt started).preceded invocations done) :
    Next name permit begun retry script alone ((script (attempt - 1)).finish started)
      (retried name permit begun retry { begun, attempt, left } (invocations ++ [started]) [])
      (retried name permit begun retry { begun, attempt, left } (invocations ++ [started])
        [(script (attempt - 1)).reply]) done := by
  have poll (reply : Reply α) : retry.poll { begun, attempt, left }
      ((script (attempt - 1)).finish started) [reply] =
    retry.pollAttempt begun ((script (attempt - 1)).finish started) left attempt [reply] := rfl
  cases reply : (script (attempt - 1)).reply with
  | ok value =>
    rw [retry.runFrom_of_ok begun left attempt started reply] at ahead
    subst ahead
    refine .ends rfl rfl fun r => ?_
    rw [poll_of_over ((poll _).trans (Retry.pollAttempt.eq_2 ..)) rfl r, List.append_nil]
    rfl
  | error error =>
    obtain ⟨delay, left', rfl, again, at_once, eq⟩ | ⟨delay, left', rfl, again, -, eq⟩ |
        ⟨last, eq⟩ := retry.pollAttempt_of_error begun ((script (attempt - 1)).finish started) left
          attempt error []
    · -- the next attempt begins in the same poll
      rw [retry.runFrom_of_again reply again, preceded_followed,
        Nat.le_antisymm at_once (Nat.le_trans (Nat.le_add_right _ _) (le_due _ _))] at ahead
      rw [Retry.pollAttempt.eq_1] at eq
      refine .goesOn (fun r => poll_of_waiting ((poll _).trans eq) rfl r)
        (.attempt ahead (Outcome.le_finish _ _)) ?_
      simp only [remaining, retried, Option.isSome_none, Bool.false_eq_true, if_false]
      omega
    · rw [retry.runFrom_of_again reply again, preceded_followed] at ahead
      refine .goesOn (fun r => poll_of_waiting ((poll _).trans eq) rfl r) ?_ ?_
      · rw [List.append_nil]
        exact .pause ahead (Nat.le_trans (Nat.le_add_right _ _) (le_due _ _))
      · simp only [remaining, retried, Option.isSome_none, Option.isSome_some, Bool.false_eq_true,
          if_false, if_true]
        omega
    · rw [retry.runFrom_of_last reply last] at ahead
      subst ahead
      refine .ends rfl rfl fun r => ?_
      rw [poll_of_over ((poll _).trans eq) rfl r, List.append_nil]
      simp only [Run.preceded, Retry.lastAttempt, reply]

/-- The pause is over, and the next attempt begins. -/
theorem next_of_resume (name : String) (permit : Permit) {left attempt resumeAt : Nat}
    {invocations : List Nat} (ahead : alone =
      (retry.runFrom script begun left attempt resumeAt).preceded invocations done) :
    ∃ c', (∀ r, (retried name permit begun retry
        { begun, attempt, left, resumeAt := some resumeAt } invocations []).poll r resumeAt =
          (.pending c', r, [])) ∧
      Stage name permit begun retry script alone c' resumeAt done ∧
      c'.remaining < (retried (α := α) name permit begun retry
        { begun, attempt, left, resumeAt := some resumeAt } invocations []).remaining := by
  have poll : retry.poll { begun, attempt, left, resumeAt := some resumeAt } resumeAt
      ([] : List (Reply α)) =
    { result := .waiting { begun, attempt, left }, replies := [], invocations := [resumeAt] } := by
    simp only [Retry.poll, Nat.le_refl, if_true, Retry.pollAttempt.eq_1, Polled.after,
      List.append_nil]
  refine ⟨_, fun r => poll_of_waiting poll rfl r, .attempt ahead (Outcome.le_finish _ _), ?_⟩
  simp only [remaining, retried, Option.isSome_none, Option.isSome_some, Bool.false_eq_true,
    if_false, if_true]
  omega

/-- The call goes on when something comes of it, as the run that it makes alone does. -/
theorem Stage.next (stage : Stage name permit begun retry script alone c now done) :
    ∃ t, c.awaited? (.ofScript script) = some t ∧ now ≤ t ∧
      Next name permit begun retry script alone t c (c.received (.ofScript script) t) done := by
  cases stage with
  | @attempt left attempt started _ invocations _ ahead now_le =>
    refine ⟨_, awaited?_attempt .., now_le, ?_⟩
    rw [received_of_come (answer?_attempt ..) (Nat.le_refl _)]
    exact next_of_reply ahead
  | @pause left attempt resumeAt _ invocations _ ahead now_le =>
    refine ⟨resumeAt, awaited?_pause .., now_le, ?_⟩
    rw [received_pause]
    obtain ⟨c', poll, stage, less⟩ := next_of_resume name permit ahead
    refine .goesOn poll ?_ less
    rwa [Notice.atInstant, List.map_nil, List.append_nil]

/-- A poll before anything comes of the call finds nothing. -/
theorem Stage.poll_before (stage : Stage name permit begun retry script alone c now done) {t : Nat}
    (awaited : c.awaited? (.ofScript script) = some t) (early : now < t) (r : Registry) :
    (c.received (.ofScript script) now).poll r now = (.pending c, r, []) := by
  cases stage with
  | @attempt left attempt started _ invocations _ ahead now_le =>
    rw [awaited?_attempt] at awaited
    obtain rfl := Option.some.inj awaited
    rw [received_of_late, poll_attempt]
    rintro answer answers
    rw [answer?_attempt] at answers
    obtain rfl := Option.some.inj answers
    exact early
  | @pause left attempt resumeAt _ invocations _ ahead now_le =>
    obtain rfl := Option.some.inj awaited
    have waits : retry.poll { begun, attempt, left, resumeAt := some resumeAt } now
        ([] : List (Reply α)) =
        { result := .waiting { begun, attempt, left, resumeAt := some resumeAt }
          replies := [] } := by
      simp only [Retry.poll, if_neg (Nat.not_le.2 early)]
    rw [received_pause, poll_of_unchanged waits]

/-- Time passes until something comes of the call. -/
theorem Stage.wait (stage : Stage name permit begun retry script alone c now done) {t : Nat}
    (awaited : c.awaited? (.ofScript script) = some t) {later : Nat} (le : later ≤ t) :
    Stage name permit begun retry script alone c later done := by
  cases stage with
  | attempt ahead now_le =>
    rw [awaited?_attempt] at awaited
    obtain rfl := Option.some.inj awaited
    exact .attempt ahead le
  | pause ahead now_le =>
    obtain rfl := Option.some.inj awaited
    exact .pause ahead le

/-- As long as a call is on its way, something may come of it. -/
theorem Stage.remaining_pos (stage : Stage name permit begun retry script alone c now done) :
    0 < c.remaining := by
  cases stage <;> exact Nat.succ_pos _

/-- What a call has done so far is the beginning of what it does alone. -/
theorem Stage.isPrefix (stage : Stage name permit begun retry script alone c now done) :
    c.invocations <+: alone.invocations ∧ done <+: alone.notices := by
  cases stage with
  | @attempt left attempt started _ invocations _ ahead now_le =>
    subst ahead
    exact ⟨(List.prefix_append_right_inj _).2 (Retry.now_isPrefix_invocations ..),
      List.prefix_append _ _⟩
  | pause ahead now_le =>
    subst ahead
    exact ⟨List.prefix_append _ _, List.prefix_append _ _⟩

end Stage

end InFlight

end Safeguard
