import Safeguard.Retry.Sequence

/-!
# What comes of a poll

A poll of a retried operation uses the replies that have come in one after the other. A failed
attempt is the last one, is followed by another one at once, or is followed by a pause
(`Retry.pollAttempt_of_error`).
-/

namespace Safeguard.Retry

variable {α : Type} (r : Retry) (begun now left attempt : Nat) (error : String)
  (replies : List (Reply α))

/-- What follows a failed attempt. -/
theorem pollAttempt_of_error :
    (∃ delay left', left = left' + 1 ∧
      r.verdict attempt (now - begun) error = .again delay ∧ due now delay ≤ now ∧
      r.pollAttempt begun now left attempt (.error error :: replies) =
        (r.pollAttempt begun now left' (attempt + 1) replies).after [now]
          (r.failureNotices attempt error (.again delay))) ∨
    (∃ delay left', left = left' + 1 ∧
      r.verdict attempt (now - begun) error = .again delay ∧ now < due now delay ∧
      r.pollAttempt begun now left attempt (.error error :: replies) =
        { result := .waiting
            { begun, attempt := attempt + 1, left := left', resumeAt := some (due now delay) }
          replies, notices := r.failureNotices attempt error (.again delay) }) ∨
    (left = 0 ∨ ∀ delay, r.verdict attempt (now - begun) error ≠ .again delay) ∧
      r.pollAttempt begun now left attempt (.error error :: replies) =
        { result := .over (.error error), replies
          notices :=
            r.failureNotices attempt error (r.verdict attempt (now - begun) error) } := by
  by_cases last : left = 0 ∨ ∀ delay, r.verdict attempt (now - begun) error ≠ .again delay
  · refine .inr (.inr ⟨last, pollAttempt.eq_4 r begun now attempt error replies left ?_⟩)
    rintro delay left' again rfl
    exact last.elim nofun fun never => never delay again
  · cases verdict : r.verdict attempt (now - begun) error with
    | exhausted | permanent | overBudget | overflow => exact absurd (.inr (by simp [verdict])) last
    | again delay =>
      obtain ⟨left', rfl⟩ := Nat.exists_eq_succ_of_ne_zero fun none => last (.inl none)
      rw [pollAttempt.eq_3 r begun now attempt error replies delay left' verdict, verdict]
      by_cases at_once : due now delay ≤ now
      · exact .inl ⟨delay, left', rfl, rfl, at_once, if_pos at_once⟩
      · exact .inr (.inl ⟨delay, left', rfl, rfl, Nat.lt_of_not_le at_once, if_neg at_once⟩)

end Safeguard.Retry
