import Safeguard.Proofs.Call.Journey
import Safeguard.Proofs.Registry.Changes

/-!
# Single calls among others

The journey of a call whose operation is invoked once. It may have a limit, and its operation may
never reply. Something comes of it when its operation replies or its limit passes, whichever is
first.

* `InFlight.Ends` says when a call comes to its end, and with which reply. A poll before that finds
  nothing (`InFlight.Ends.poll_before`), and a poll then ends the call (`InFlight.Ends.poll_at`).
* `SingleCall.step_of_pending` is all that an occurrence can be to a call on its way.
* `SingleCall.Course` says how far a call is, which `SingleCall.Course.run` follows through any
  occurrences, and `SingleCall.Abreast.run` that two calls which end at the same instant, with
  replies that do the same to a breaker, do the same throughout.
-/

namespace Safeguard

/-! ## The end of a call -/

namespace InFlight

variable {α : Type}

/-- When a call comes to its end, and with which reply: its operation replies in time, or its limit
passes before that. -/
inductive Ends (name : String) (begun : Nat) (limit : Option Nat)
    (operation : Option (Outcome α)) : (t : Nat) → CallReply α → Prop
  | replied {o : Outcome α} (runs : operation = some o)
      (in_time : ∀ d, limit = some d → o.finish begun ≤ due begun d) :
      Ends name begun limit operation (o.finish begun) (.ofReply o.reply)
  | expired {d : Nat} (limited : limit = some d)
      (late : ∀ o, operation = some o → due begun d < o.finish begun) :
      Ends name begun limit operation (due begun d) (.error (.timedOut name d))

section Poll

variable (clock : Clock) (name : String) (limit : Option Nat) (permit : Permit)
  (operation : Option (Outcome α))

theorem answer?_admitted :
    (admitted clock name limit none permit).answer? (.once operation) =
      operation.map fun o => (o.finish clock.now, o.reply) := by
  cases operation <;> rfl

theorem poll_finish (reply : Reply α) (r : Registry) (now : Nat) :
    ((admitted clock name limit none permit).finish reply).poll r now =
      (.ended (.ofReply reply) [clock.now], r.settle now name (.ofReply reply)) := rfl

/-- A poll of a call without a reply looks at the limit. -/
theorem poll_admitted (r : Registry) (now : Nat) :
    (admitted (α := α) clock name limit none permit).poll r now =
      match limit.filter fun d => due clock.now d ≤ now with
      | some d => (.ended (.error (.timedOut name d)) [clock.now],
          r.settle (α := α) now name (.error (.timedOut name d)))
      | none => (.pending (admitted clock name limit none permit), r, []) := rfl

end Poll

/-- A call with a limit comes to an end in any case. -/
theorem exists_ends (name : String) (begun d : Nat) (operation : Option (Outcome α)) :
    ∃ t reply, Ends name begun (some d) operation t reply := by
  cases operation with
  | none => exact ⟨_, _, .expired rfl nofun⟩
  | some o =>
    rcases Nat.lt_or_ge (due begun d) (o.finish begun) with late | in_time
    · refine ⟨_, _, .expired rfl ?_⟩
      rintro o' ⟨⟩
      exact late
    · refine ⟨_, _, .replied rfl ?_⟩
      rintro d' ⟨⟩
      exact in_time

namespace Ends

variable {name : String} {clock : Clock} {limit : Option Nat} {operation : Option (Outcome α)}
  {t : Nat} {reply : CallReply α}

theorem begun_le {begun : Nat} (ends : Ends name begun limit operation t reply) : begun ≤ t := by
  cases ends with
  | replied => exact Outcome.le_finish _ _
  | expired => exact Nat.le_trans (Nat.le_add_right _ _) (le_due _ _)

/-- Until its end nothing comes of a call. -/
theorem le_finish {begun : Nat} (ends : Ends name begun limit operation t reply) {o : Outcome α}
    (runs : operation = some o) : t ≤ o.finish begun := by
  cases ends with
  | replied runs' =>
    cases runs.symm.trans runs'
    exact Nat.le_refl _
  | expired _ late => exact Nat.le_of_lt (late o runs)

theorem le_due {begun d : Nat} (ends : Ends name begun limit operation t reply)
    (limited : limit = some d) : t ≤ due begun d := by
  cases ends with
  | replied _ in_time => exact in_time d limited
  | expired limited' =>
    cases limited.symm.trans limited'
    exact Nat.le_refl _

/-- Something comes of a call at its end. -/
theorem awaited? (ends : Ends name clock.now limit operation t reply) (permit : Permit) :
    (admitted clock name limit none permit).awaited? (.once operation) = some t := by
  rw [InFlight.awaited?, answer?_admitted]
  cases ends with
  | @replied o runs in_time =>
    subst runs
    cases limit with
    | none => rfl
    | some d => exact congrArg some (Nat.min_eq_left (in_time d rfl))
  | @expired d limited late =>
    subst limited
    cases operation with
    | none => rfl
    | some o => exact congrArg some (Nat.min_eq_right (Nat.le_of_lt (late o rfl)))

/-- A poll at its end ends the call. -/
theorem poll_at (ends : Ends name clock.now limit operation t reply) (permit : Permit)
    (r : Registry) :
    ((admitted clock name limit none permit).received (.once operation) t).poll r t =
      (.ended reply [clock.now], r.settle t name reply) := by
  cases ends with
  | @replied o runs in_time =>
    subst runs
    rw [received_of_come (answer?_admitted ..) (Nat.le_refl _), poll_finish]
  | @expired d limited late =>
    subst limited
    have silent : (admitted clock name (some d) none permit).received (.once operation)
        (due clock.now d) = admitted clock name (some d) none permit := by
      refine received_of_late fun answer answers => ?_
      rw [answer?_admitted, Option.map_eq_some_iff] at answers
      obtain ⟨o, runs, rfl⟩ := answers
      exact late o runs
    have overdue : ((some d).filter fun d' => due clock.now d' ≤ due clock.now d) = some d := by
      rw [Option.filter_some]
      exact if_pos (decide_eq_true (Nat.le_refl _))
    rw [silent, poll_admitted, overdue]

/-- A poll before its end finds nothing of the call. -/
theorem poll_before (ends : Ends name clock.now limit operation t reply) (permit : Permit)
    {now : Nat} (early : now < t) (r : Registry) :
    ((admitted clock name limit none permit).received (.once operation) now).poll r now =
      (.pending (admitted clock name limit none permit), r, []) := by
  have none_due : (limit.filter fun d => due clock.now d ≤ now) = none := by
    rw [Option.filter_eq_none_iff]
    intro d limited
    have := ends.le_due limited
    simp only [decide_eq_true_eq]
    omega
  have silent : (admitted clock name limit none permit).received (.once operation) now =
      admitted clock name limit none permit := by
    refine received_of_late fun answer answers => ?_
    rw [answer?_admitted, Option.map_eq_some_iff] at answers
    obtain ⟨o, runs, rfl⟩ := answers
    exact Nat.lt_of_lt_of_le early (ends.le_finish runs)
  rw [silent, poll_admitted, none_due]

end Ends

end InFlight

namespace SingleCall

open Journey (Occurrence)

variable {α : Type}

/-- A call through the breaker of a name. If it is let through, it is polled at once. -/
def start (r : Registry) (clock : Clock) (name : String) (policy : Option BreakerPolicy)
    (limit : Option Nat) (operation : Option (Outcome α)) : Journey α :=
  match r.ask clock name policy with
  | (.rejected retryIn, registry, notices) =>
    { clock, registry, result := .ended (.error (.rejected name retryIn)) []
      notices := Notice.atInstant clock.now notices }
  | (.admitted permit, registry, notices) =>
    Journey.poll (.once operation)
      { clock, registry, result := .pending (.admitted clock name limit none permit)
        notices := Notice.atInstant clock.now notices }

/-! ### What an occurrence can be -/

section Occurrences

variable {name : String} {clock : Clock} {permit : Permit} {limit : Option Nat}
  {operation : Option (Outcome α)} {t : Nat} {reply : CallReply α} {s : Journey α}

/-- A call that is polled comes to its end if that is now, and else stays as it is. -/
theorem poll_of_pending (ends : InFlight.Ends name clock.now limit operation t reply)
    (pending : s.result = .pending (.admitted clock name limit none permit)) (early : s.now ≤ t) :
    s.poll (.once operation) = if s.now = t then s.settled name t reply [clock.now] else s := by
  simp only [Journey.poll, pending, Journey.take]
  split
  · rename_i on_time
    rw [on_time, ends.poll_at]
    rfl
  · rename_i ne
    have same : s.clock.waitUntil s.now = s.clock := by
      simp only [Clock.waitUntil, Journey.now, Nat.max_self]
    rw [ends.poll_before permit (Nat.lt_of_le_of_ne early ne), same, Notice.atInstant, List.map_nil,
      List.append_nil, ← pending]

/-- What an occurrence is to a call on its way. -/
theorem step_of_pending (ends : InFlight.Ends name clock.now limit operation t reply)
    (pending : s.result = .pending (.admitted clock name limit none permit)) (early : s.now ≤ t)
    (e : Occurrence) :
    s.step (.once operation) e =
      match e with
      | .proceed => s.settled name t reply [clock.now]
      | .poll => if s.now = t then s.settled name t reply [clock.now] else s
      | .wait d => { s with clock := s.clock.waitUntil (min (s.now + d) t) }
      | .deed d => s.perform d := by
  have ahead :
      s.upcoming? (.once operation) = some (t, .admitted clock name limit none permit) := by
    rw [Journey.upcoming?, pending]
    exact congrArg (Option.map _) (ends.awaited? permit)
  cases e with
  | proceed =>
    simp only [Journey.step, Journey.proceed, ahead, Journey.take, ends.poll_at]
    rfl
  | poll => exact poll_of_pending ends pending early
  | wait d => simp only [Journey.step, Journey.wait, ahead]
  | deed d => rfl

end Occurrences

/-! ### How far a call is -/

section Course

variable (name : String) (permit : Permit) (clock : Clock) (limit : Option Nat) (t : Nat)
  (reply : CallReply α) (asked : List (Nat × Notice))

/-- How far a call is that was let through. -/
inductive Course (s : Journey α) : Prop
  | onItsWay (pending : s.result = .pending (.admitted clock name limit none permit))
      (early : s.now ≤ t) (reported : s.notices = asked)
      (present : (s.registry.get? name).isSome = true)
  | ended {b : Breaker} (result : s.result = .ended reply [clock.now]) (late : t ≤ s.now)
      (reported : s.notices = asked ++ Notice.atInstant t (b.settle t reply).2)

variable {name permit clock limit t reply asked} {operation : Option (Outcome α)}
  {s : Journey α}

theorem Course.settled (on_time : s.now ≤ t) (reported : s.notices = asked)
    (present : (s.registry.get? name).isSome = true) :
    Course name permit clock limit t reply asked (s.settled name t reply [clock.now]) := by
  obtain ⟨b, found⟩ := Option.isSome_iff_exists.mp present
  have now : (s.settled name t reply [clock.now]).now = t := Nat.max_eq_right on_time
  refine .ended (b := b) rfl (Nat.le_of_eq now.symm) ?_
  simp only [Journey.settled, Registry.settle, found, reported]

theorem Course.step (ends : InFlight.Ends name clock.now limit operation t reply)
    (course : Course name permit clock limit t reply asked s) (e : Occurrence) :
    Course name permit clock limit t reply asked (s.step (.once operation) e) := by
  cases course with
  | onItsWay pending early reported present =>
    rw [step_of_pending ends pending early e]
    cases e with
    | proceed => exact .settled early reported present
    | poll =>
      dsimp only
      split
      · exact .settled early reported present
      · exact .onItsWay pending early reported present
    | wait d =>
      refine .onItsWay pending ?_ reported present
      show max s.now (min (s.now + d) t) ≤ t
      omega
    | deed d => exact .onItsWay pending early reported (d.isSome_registry s.clock present)
  | ended result late reported =>
    have is_over : s.isOver = true := by rw [Journey.isOver, result]
    obtain ⟨same, silent, -⟩ := Journey.kept_of_isOver (.once operation) is_over e
    refine .ended (same.trans result) ?_ (silent.trans reported)
    rw [Journey.step_of_isOver _ is_over e]
    cases e with
    | wait d =>
      show t ≤ max s.now (s.now + d)
      omega
    | _ => exact late

theorem Course.run (ends : InFlight.Ends name clock.now limit operation t reply)
    (course : Course name permit clock limit t reply asked s) (es : List Occurrence) :
    Course name permit clock limit t reply asked (s.run (.once operation) es) :=
  Journey.run_induction _ s course (fun _ e course => course.step ends e) es

/-- Once something has come of a call, it is over. -/
theorem Course.isOver_run (ends : InFlight.Ends name clock.now limit operation t reply)
    (course : Course name permit clock limit t reply asked s) {es : List Occurrence}
    (proceeds : ∃ e ∈ es, e.isProceed = true) : (s.run (.once operation) es).isOver = true := by
  induction es using List.reverseRecOn with
  | nil => simp at proceeds
  | append_singleton es e ih =>
    rw [Journey.run_concat]
    cases course.run ends es with
    | ended result =>
      have is_over : (s.run (.once operation) es).isOver = true := by rw [Journey.isOver, result]
      rw [Journey.isOver, (Journey.kept_of_isOver _ is_over e).1]
      exact is_over
    | onItsWay pending early =>
      have unfinished : (s.run (.once operation) es).isOver = false := by
        rw [Journey.isOver, pending]
      obtain ⟨e', mem, proceed⟩ := proceeds
      rcases List.mem_append.mp mem with earlier | last
      · have is_over := ih ⟨e', earlier, proceed⟩
        exact absurd (unfinished.symm.trans is_over) Bool.false_ne_true
      · rw [List.mem_singleton] at last
        subst last
        rw [step_of_pending ends pending early]
        cases e' with
        | proceed => rfl
        | _ => cases proceed

end Course

/-! ### Two calls at once -/

section Abreast

variable {β : Type} (shown : List (Nat × Notice) → List β)

/-- Two replies do the same to every breaker, as far as what is reported is shown. -/
structure SameEffect (reply reply' : CallReply α) : Prop where
  breaker (b : Breaker) (t : Nat) : (b.settle t reply).1 = (b.settle t reply').1
  reports (b : Breaker) (t : Nat) :
    shown (Notice.atInstant t (b.settle t reply).2) =
      shown (Notice.atInstant t (b.settle t reply').2)

/-- Two calls have done the same, each among the same others, as far as what is reported is
shown. -/
structure Abreast (s s' : Journey α) : Prop where
  clock : s.clock = s'.clock
  registry : s.registry = s'.registry
  reports : shown s.notices = shown s'.notices
  isOver : s.isOver = s'.isOver

variable {shown} {name : String} {clock : Clock} {permit : Permit} {limit limit' : Option Nat}
  {operation operation' : Option (Outcome α)} {t : Nat} {reply reply' : CallReply α}
  {asked : List (Nat × Notice)} {s s' : Journey α}

theorem Abreast.now (abreast : Abreast shown s s') : s.now = s'.now :=
  congrArg Clock.now abreast.clock

theorem Abreast.perform (abreast : Abreast shown s s') (d : Deed) :
    Abreast shown (s.perform d) (s'.perform d) where
  clock := abreast.clock
  registry := by simp only [Journey.perform, abreast.clock, abreast.registry]
  reports := abreast.reports
  isOver := abreast.isOver

theorem Abreast.waitUntil (abreast : Abreast shown s s') (later : Nat) :
    Abreast shown { s with clock := s.clock.waitUntil later }
      { s' with clock := s'.clock.waitUntil later } where
  clock := by simp only [abreast.clock]
  registry := abreast.registry
  reports := abreast.reports
  isOver := abreast.isOver

theorem Abreast.settled (append : ∀ a b, shown (a ++ b) = shown a ++ shown b)
    (effect : SameEffect shown reply reply') (abreast : Abreast shown s s')
    (present : (s.registry.get? name).isSome = true) (invocations : List Nat) :
    Abreast shown (s.settled name t reply invocations)
      (s'.settled name t reply' invocations) := by
  obtain ⟨b, found⟩ := Option.isSome_iff_exists.mp present
  have found' : s'.registry.get? name = some b := abreast.registry ▸ found
  refine ⟨?_, ?_, ?_, rfl⟩
  · simp only [Journey.settled, abreast.clock]
  · simp only [Journey.settled, Registry.settle, abreast.registry, found', effect.breaker]
  · simp only [Journey.settled, Registry.settle, found, found', append, effect.reports,
      abreast.reports]

/-- Two calls that end at the same instant and to the same effect stay abreast. -/
theorem Abreast.step (append : ∀ a b, shown (a ++ b) = shown a ++ shown b)
    (effect : SameEffect shown reply reply')
    (ends : InFlight.Ends name clock.now limit operation t reply)
    (ends' : InFlight.Ends name clock.now limit' operation' t reply')
    (course : Course name permit clock limit t reply asked s)
    (course' : Course name permit clock limit' t reply' asked s') (abreast : Abreast shown s s')
    (e : Occurrence) :
    Abreast shown (s.step (.once operation) e) (s'.step (.once operation') e) := by
  have same_end := abreast.isOver
  cases course with
  | onItsWay pending early _ present =>
    cases course' with
    | ended result' => simp [Journey.isOver, pending, result'] at same_end
    | onItsWay pending' early' =>
      have settles := abreast.settled append effect (t := t) present [clock.now]
      rw [step_of_pending ends pending early e, step_of_pending ends' pending' early' e]
      cases e with
      | proceed => exact settles
      | poll =>
        dsimp only
        rw [abreast.now]
        split
        · exact settles
        · exact abreast
      | wait d =>
        dsimp only
        rw [abreast.now]
        exact abreast.waitUntil _
      | deed d => exact abreast.perform d
  | ended result =>
    have is_over : s.isOver = true := by rw [Journey.isOver, result]
    rw [Journey.step_of_isOver _ is_over e, Journey.step_of_isOver _ (same_end ▸ is_over) e]
    cases e with
    | proceed | poll => exact abreast
    | wait d =>
      dsimp only
      rw [abreast.now]
      exact abreast.waitUntil _
    | deed d => exact abreast.perform d

theorem Abreast.run (append : ∀ a b, shown (a ++ b) = shown a ++ shown b)
    (effect : SameEffect shown reply reply')
    (ends : InFlight.Ends name clock.now limit operation t reply)
    (ends' : InFlight.Ends name clock.now limit' operation' t reply')
    (course : Course name permit clock limit t reply asked s)
    (course' : Course name permit clock limit' t reply' asked s') (abreast : Abreast shown s s')
    (es : List Occurrence) :
    Abreast shown (s.run (.once operation) es) (s'.run (.once operation') es) := by
  induction es using List.reverseRecOn with
  | nil => exact abreast
  | append_singleton es e ih =>
    rw [Journey.run_concat, Journey.run_concat]
    exact ih.step append effect ends ends' (course.run ends es) (course'.run ends' es) e

end Abreast

end SingleCall

end Safeguard
