import Safeguard.Proofs.Call.OneCall
import Safeguard.Proofs.Call.SingleCall

/-!
# Calls with a limit

What the limit of a call comes to, whatever else happens to its breaker meanwhile
(`SingleCall.limit_counts_as_failure`). If the operation replies before the limit passes, or just
then, the call is the same as without a limit. Else the call ends when the limit passes, and it does
to its breaker what a call does whose operation fails at that instant; the operation that was given
up has no part in anything that comes later. A call that is turned away is so with or without a
limit. If nothing else happens, the call is `Registry.perform` (`SingleCall.run_undisturbed`).
-/

namespace Safeguard

theorem Outcome.finish_of_dvd {α : Type} {o : Outcome α} {begun : Nat} (whole : 1000000 ∣ begun)
    (delay : 1000000 ∣ o.delay) : o.finish begun = begun + o.delay := by
  unfold finish
  split
  · exact due_of_dvd (Nat.dvd_add whole delay)
  · rfl

/-- A limit that passes is told as a failure. -/
theorem Breaker.told_timedOut {α β : Type} (f : Event → Option β) (b : Breaker) (t : Nat)
    (name : String) (d : Nat) :
    Notice.told f (Notice.atInstant t (b.settle (α := α) t (.error (.timedOut name d))).2) =
      Notice.told f (Notice.atInstant t (b.fail t).2) := by
  rw [Notice.told_atInstant, Notice.told_atInstant]
  rfl

/-- What the caller has been told, and when the operation was invoked. -/
def Journey.reply? {α : Type} (s : Journey α) : Option (CallReply α × List Nat) :=
  match s.result with
  | .pending _ => none
  | .ended reply invocations => some (reply, invocations)

namespace SingleCall

open Journey (Occurrence)

variable {α : Type}

/-- A call whose limit passes, beside one whose operation fails just then. -/
structure TimesOut (name : String) (begun limit : Nat) (error : String) (s s' : Journey α) :
    Prop where
  abreast : Abreast (Notice.told some) s s'
  onItsWay (pending : s.isOver = false) : s.now ≤ begun + limit ∧ s.outcomes = []
  atEnd (is_over : s.isOver = true) :
    begun + limit ≤ s.now ∧ s.outcomes = [(begun + limit, false)] ∧
      s.reply? = some (.error (.timedOut name limit), [begun]) ∧
      s'.reply? = some (.error (.failed error), [begun])

/-! ## How a call begins -/

section Start

variable (r : Registry) (clock : Clock) (name : String) (policy : Option BreakerPolicy)
  (limit : Option Nat) (operation : Option (Outcome α))

/-- A call that has been let through and not been polled. -/
def admitted (permit : Permit) : Journey α where
  clock
  registry := (r.ask clock name policy).2.1
  result := .pending (.admitted clock name limit none permit)
  notices := Notice.atInstant clock.now (r.ask clock name policy).2.2

theorem start_of_rejected {retryIn : Option Nat}
    (turned_away : (r.ask clock name policy).1 = .rejected retryIn) :
    start r clock name policy limit operation =
      { clock, registry := (r.ask clock name policy).2.1
        result := .ended (.error (.rejected name retryIn)) []
        notices := Notice.atInstant clock.now (r.ask clock name policy).2.2 } := by
  rcases eq : r.ask clock name policy with ⟨admission, r', notices⟩
  rw [eq] at turned_away
  cases turned_away
  simp only [start, eq]

/-- What comes of a call that is let through is what comes of it from its first poll on. -/
theorem run_start {permit : Permit} (let_through : (r.ask clock name policy).1 = .admitted permit)
    (es : List Occurrence) :
    (start r clock name policy limit operation).run (.once operation) es =
      (admitted r clock name policy limit permit).run (.once operation) (.poll :: es) := by
  have begins : start r clock name policy limit operation =
      (admitted r clock name policy limit permit).poll (.once operation) := by
    rcases eq : r.ask clock name policy with ⟨admission, r', notices⟩
    rw [eq] at let_through
    cases let_through
    simp only [start, admitted, eq]
  rw [begins]
  rfl

theorem course_admitted (permit : Permit) {t : Nat} {reply : CallReply α}
    (ends : InFlight.Ends name clock.now limit operation t reply) :
    Course name permit clock limit t reply
      (Notice.atInstant clock.now (r.ask clock name policy).2.2)
      (admitted r clock name policy limit permit) := by
  refine .onItsWay rfl ends.begun_le rfl ?_
  show ((r.ask clock name policy).2.1.get? name).isSome = true
  rw [Registry.get?_ask_self, Option.isSome_some]

end Start

/-! ## What a limit comes to -/

section Limit

variable {r : Registry} {clock : Clock} {name : String} {policy : Option BreakerPolicy}
  {permit : Permit} {limit limit' : Option Nat} {operation operation' : Option (Outcome α)}
  {t : Nat} {reply reply' : CallReply α} {asked : List (Nat × Notice)} {s s' : Journey α}

/-- A call has replied exactly if it is over. -/
theorem Course.reply?_eq (course : Course name permit clock limit t reply asked s) :
    s.reply? = if s.isOver then some (reply, [clock.now]) else none := by
  cases course with
  | onItsWay pending =>
    simp only [Journey.reply?, Journey.isOver, pending, Bool.false_eq_true, if_false]
  | ended result => simp only [Journey.reply?, Journey.isOver, result, if_true]

/-- What comes of two calls that end at the same instant and to the same effect. -/
theorem abreast_run {β : Type} {shown : List (Nat × Notice) → List β}
    (append : ∀ a b, shown (a ++ b) = shown a ++ shown b)
    (effect : SameEffect shown reply reply')
    (let_through : (r.ask clock name policy).1 = .admitted permit)
    (ends : InFlight.Ends name clock.now limit operation t reply)
    (ends' : InFlight.Ends name clock.now limit' operation' t reply') (es : List Occurrence) :
    Abreast shown ((start r clock name policy limit operation).run (.once operation) es)
      ((start r clock name policy limit' operation').run (.once operation') es) := by
  rw [run_start r clock name policy limit operation let_through,
    run_start r clock name policy limit' operation' let_through]
  have course := course_admitted r clock name policy limit operation permit ends
  have course' := course_admitted r clock name policy limit' operation' permit ends'
  exact Abreast.run append effect ends ends' course course' ⟨rfl, rfl, rfl, rfl⟩ _

theorem course_run (let_through : (r.ask clock name policy).1 = .admitted permit)
    (ends : InFlight.Ends name clock.now limit operation t reply) (es : List Occurrence) :
    Course name permit clock limit t reply
      (Notice.atInstant clock.now (r.ask clock name policy).2.2)
      ((start r clock name policy limit operation).run (.once operation) es) := by
  rw [run_start r clock name policy limit operation let_through]
  exact (course_admitted r clock name policy limit operation permit ends).run ends _

/-- With a limit that does not pass before the operation replies, a call ends as it does without. -/
theorem ends_in_time (name : String) {o : Outcome α} {d begun : Nat} (whole : 1000000 ∣ begun)
    (whole_limit : 1000000 ∣ d) (whole_delay : 1000000 ∣ o.delay) (le : o.delay ≤ d) :
    InFlight.Ends name begun (some d) (some o) (o.finish begun) (.ofReply o.reply) ∧
      InFlight.Ends name begun none (some o) (o.finish begun) (.ofReply o.reply) := by
  refine ⟨.replied rfl ?_, .replied rfl nofun⟩
  intro d' limited
  cases limited
  rw [o.finish_of_dvd whole whole_delay, due_of_dvd (Nat.dvd_add whole whole_limit)]
  omega

/-- With a limit that passes before the operation replies, a call ends then, and a call whose
operation fails as late as that ends at the same instant. -/
theorem ends_too_late (name : String) {d begun : Nat} (whole : 1000000 ∣ begun)
    (whole_limit : 1000000 ∣ d) (whole_delay : ∀ o, operation = some o → 1000000 ∣ o.delay)
    (late : ∀ o, operation = some o → d < o.delay) (error : String) :
    InFlight.Ends name begun (some d) operation (begun + d) (.error (.timedOut name d)) ∧
      InFlight.Ends (α := α) name begun none (some { delay := d, reply := .error error })
        (begun + d) (.error (.failed error)) := by
  have passes : due begun d = begun + d := due_of_dvd (Nat.dvd_add whole whole_limit)
  constructor
  · rw [← passes]
    refine .expired rfl ?_
    intro o runs
    have := late o runs
    rw [passes, o.finish_of_dvd whole (whole_delay o runs)]
    omega
  · have finish : ({ delay := d, reply := .error error } : Outcome α).finish begun = begun + d :=
      Outcome.finish_of_dvd whole whole_limit
    rw [← finish]
    exact .replied rfl nofun

/-- A limit that passes and a failure do the same to a breaker, and send the same events. -/
theorem sameEffect_timedOut (name : String) (d : Nat) (error : String) :
    SameEffect (α := α) (Notice.told some) (.error (.timedOut name d))
      (.error (.failed error)) where
  breaker _ _ := rfl
  reports b t := b.told_timedOut some t name d

/-- A call that ends as its limit passes, abreast of one that fails then, times out. -/
theorem timesOut {d : Nat} {error : String}
    (endings : Notice.told Event.ending? asked = [])
    (course : Course name permit clock limit (clock.now + d) (.error (.timedOut name d)) asked s)
    (course' : Course name permit clock limit' (clock.now + d) (.error (.failed error)) asked s')
    (abreast : Abreast (Notice.told some) s s') : TimesOut name clock.now d error s s' := by
  have replied := course.reply?_eq
  have replied' := course'.reply?_eq
  rw [← abreast.isOver] at replied'
  refine ⟨abreast, ?_, ?_⟩
  · intro unfinished
    cases course with
    | onItsWay pending early reported =>
      refine ⟨early, ?_⟩
      rw [Journey.outcomes, reported, endings]
    | ended result => simp [Journey.isOver, result] at unfinished
  · intro is_over
    rw [is_over, if_pos rfl] at replied replied'
    cases course with
    | onItsWay pending => simp [Journey.isOver, pending] at is_over
    | @ended b _ late reported =>
      refine ⟨late, ?_, replied, replied'⟩
      rw [Journey.outcomes, reported, Notice.told_append, endings, List.nil_append, b.told_timedOut]
      exact (b.told_record (clock.now + d) false).1

end Limit

/-- **A limit counts as a failure.** Take a call with a limit `d`, at a whole millisecond, an
operation that replies after a whole number of milliseconds or never, and anything that happens to
the breakers meanwhile. A call that is turned away is told so, with or without a limit. Of a call
that is let through there are two cases. If the operation replies no later than `d` after the start,
the clock, the breakers, the reports and the reply are at every moment those of the call without a
limit. If not, the call ends `d` after its start as timed out; up to then and from then on, the
breakers and the events are those of a call whose operation fails `d` after its start. The call ends
once something has come of it, and from then on the operation has no part in anything. -/
theorem limit_counts_as_failure (r : Registry) (clock : Clock) (name : String)
    (policy : Option BreakerPolicy) (d : Nat) (operation : Option (Outcome α))
    (es : List Occurrence) (whole : 1000000 ∣ clock.now) (whole_limit : 1000000 ∣ d)
    (whole_delay : ∀ o, operation = some o → 1000000 ∣ o.delay) :
    let call (limit : Option Nat) (operation : Option (Outcome α)) :=
      (start r clock name policy limit operation).run (.once operation) es
    let limited := call (some d) operation
    (∀ retryIn, (r.ask clock name policy).1 = .rejected retryIn →
      (∀ limit operation', limited = call limit operation') ∧
        limited.reply? = some (.error (.rejected name retryIn), [])) ∧
    ∀ permit, (r.ask clock name policy).1 = .admitted permit →
      (∀ o, operation = some o → o.delay ≤ d →
        Abreast id limited (call none operation) ∧
          limited.reply? = (call none operation).reply?) ∧
      ((∀ o, operation = some o → d < o.delay) → ∀ error,
        TimesOut name clock.now d error limited
          (call none (some { delay := d, reply := .error error }))) ∧
      ((∃ e ∈ es, e.isProceed = true) → limited.isOver = true) ∧
      (limited.isOver = true → ∀ operation' more,
        limited.run (.once operation) more = limited.run (.once operation') more ∧
          (limited.run (.once operation) more).result = limited.result ∧
          (limited.run (.once operation) more).notices = limited.notices) := by
  intro call limited
  constructor
  · intro retryIn turned_away
    have begins (limit : Option Nat) (operation : Option (Outcome α)) :=
      start_of_rejected r clock name policy limit operation turned_away
    have is_over (limit : Option Nat) (operation : Option (Outcome α)) :
        (start r clock name policy limit operation).isOver = true := by
      rw [begins]
      rfl
    constructor
    · intro limit operation'
      show (start r clock name policy (some d) operation).run (.once operation) es = _
      rw [(Journey.run_of_isOver (is_over _ _) (.once operation) (.once operation') es).1, begins,
        ← begins limit operation']
    · obtain ⟨-, kept, -⟩ := Journey.run_of_isOver (is_over (some d) operation)
        (.once operation) (.once operation) es
      rw [Journey.reply?, kept, begins]
  · intro permit let_through
    obtain ⟨endings, -⟩ := r.told_ask clock name policy clock.now
    refine ⟨?_, ?_, ?_, ?_⟩
    · rintro o rfl le
      obtain ⟨ends, ends'⟩ := ends_in_time name whole whole_limit (whole_delay o rfl) le
      have same : SameEffect (α := α) id (.ofReply o.reply) (.ofReply o.reply) :=
        ⟨fun _ _ => rfl, fun _ _ => rfl⟩
      have abreast := abreast_run (fun _ _ => rfl) same let_through ends ends' es
      refine ⟨abreast, ?_⟩
      rw [(course_run let_through ends es).reply?_eq, (course_run let_through ends' es).reply?_eq,
        abreast.isOver]
    · intro late error
      obtain ⟨ends, ends'⟩ := ends_too_late name whole whole_limit whole_delay late error
      exact timesOut endings (course_run let_through ends es) (course_run let_through ends' es)
        (abreast_run (Notice.told_append some) (sameEffect_timedOut name d error) let_through ends
          ends' es)
    · rintro ⟨e, mem, proceeds⟩
      obtain ⟨t, reply, ends⟩ := InFlight.exists_ends name clock.now d operation
      have course := course_admitted r clock name policy (some d) operation permit ends
      show ((start r clock name policy (some d) operation).run (.once operation) es).isOver = true
      rw [run_start r clock name policy (some d) operation let_through]
      exact course.isOver_run ends ⟨e, List.mem_cons_of_mem _ mem, proceeds⟩
    · intro is_over operation' more
      exact Journey.run_of_isOver is_over (.once operation) (.once operation') more

/-- A call with a limit of 50, whose operation would succeed after 80, and a breaker that opens at
the first failure. While the call is on its way the breaker is forced open and reset. The limit
passes, the breaker opens, and it stays so, though the operation would have succeeded by now. -/
theorem limit_counts_as_failure_of_reset :
    let clock : Clock := { wallStart := 0 }
    let policy : BreakerPolicy := { failureThreshold := 1 }
    let slow : Outcome Unit := { delay := 80000000, reply := .ok () }
    let es : List Occurrence :=
      [.wait 10000000, .deed (.forceOpen "db"), .deed (.reset "db"), .proceed, .wait 40000000]
    let call :=
      (start {} clock "db" (some policy) (some 50000000) (some slow)).run (.once (some slow)) es
    call.reply? = some (.error (.timedOut "db" 50000000), [0]) ∧
      call.outcomes = [(50000000, false)] ∧
      ((call.registry.get? "db").map fun b => b.circuit.state) = some .opened := by
  intro clock policy slow es call
  have let_through : (({} : Registry).ask clock "db" (some policy)).1 = .admitted ⟨false⟩ := by
    decide +kernel
  have whole : ∀ o, some slow = some o → 1000000 ∣ o.delay := by
    rintro o ⟨⟩
    decide
  have late : ∀ o, some slow = some o → 50000000 < o.delay := by
    rintro o ⟨⟩
    decide
  obtain ⟨-, times_out, ends, -⟩ := (limit_counts_as_failure {} clock "db" (some policy) 50000000
    (some slow) es (by decide) (by decide) whole).2 _ let_through
  have is_over : call.isOver = true := ends ⟨.proceed, by simp [es], rfl⟩
  have passes : clock.now + 50000000 = 50000000 := Nat.zero_add _
  obtain ⟨-, outcomes, replied, -⟩ := (times_out late "").atEnd is_over
  rw [passes] at outcomes
  exact ⟨replied, outcomes, by decide +kernel⟩

end SingleCall

/-! ## The whole call -/

/-- What an operation comes to as a call is told by the end of the call. -/
theorem Breaker.limited_of_ends {α : Type} {name : String} {begun t : Nat} {limit : Option Nat}
    {o : Outcome α} {reply : CallReply α}
    (ends : InFlight.Ends name begun limit (some o) t reply) :
    limited name begun limit (o.run begun) =
      { reply, finished := t, invocations := [begun], notices := [] } := by
  cases ends with
  | replied runs in_time =>
    cases runs
    cases limit with
    | none => rfl
    | some d =>
      rw [limited, Run.within_of_finished_le (in_time d rfl)]
      rfl
  | @expired d limited late =>
    cases limited
    have later : ¬ (o.run begun).finished ≤ due begun d := Nat.not_le.mpr (late o rfl)
    have invoked : [begun].filter (· ≤ due begun d) = [begun] :=
      List.filter_cons_of_pos
        (decide_eq_true (Nat.le_trans (Nat.le_add_right begun d) (le_due begun d)))
    rw [Breaker.limited, Run.within, if_neg later]
    show Run.mk _ _ ([begun].filter (· ≤ due begun d)) _ = _
    rw [invoked]
    rfl

/-- A whole call that is let through, in its parts: it asks, and it settles at its end. -/
theorem Registry.perform_of_ends {α : Type} (r : Registry) (clock : Clock) (name : String)
    (policy : Option BreakerPolicy) {permit : Permit}
    (named : (r.getOrCreate clock name policy).1.name = name)
    (let_through : (r.ask clock name policy).1 = .admitted permit) {limit : Option Nat}
    {o : Outcome α} {t : Nat} {reply : CallReply α}
    (ends : InFlight.Ends name clock.now limit (some o) t reply) :
    let asked := r.ask clock name policy
    let settled := asked.2.1.settle t name reply
    r.perform clock name policy limit o.run =
      ({ reply, finished := t, invocations := [clock.now]
         notices := Notice.atInstant clock.now asked.2.2 ++ Notice.atInstant t settled.2 },
        settled.1) := by
  rcases created : r.getOrCreate clock name policy with ⟨b, r', creation⟩
  rcases answer : b.ask clock.now with ⟨admission, b', notices⟩
  rw [created] at named
  have same : b'.name = name := by
    have guard := b.sameGuard_ask clock.now
    rw [answer] at guard
    exact guard.1.trans named
  simp only [ask, created, answer] at let_through
  subst let_through
  simp only [perform, Breaker.perform, ask, created, answer, same, Breaker.limited_of_ends ends,
    settle, get?_put_self, put_put, Notice.atInstant, List.map_append, List.append_assoc,
    List.nil_append]

namespace SingleCall

open Journey (Occurrence)

variable {α : Type}

section Undisturbed

variable {name : String} {clock : Clock} {permit : Permit} {limit : Option Nat}
  {operation : Option (Outcome α)} {t : Nat} {reply : CallReply α} {asked : List (Nat × Notice)}
  {s : Journey α}

/-- What a call comes to if the call alone does anything to the breakers. -/
inductive Alone (name : String) (t : Nat) (reply : CallReply α) (asked : List (Nat × Notice))
    (r : Registry) (s : Journey α) : Prop
  | onItsWay (unfinished : s.isOver = false) (registry : s.registry = r)
  | ended (is_over : s.isOver = true) (registry : s.registry = (r.settle t name reply).1)
      (reported : s.notices = asked ++ Notice.atInstant t (r.settle t name reply).2)

theorem Alone.step {r : Registry} (ends : InFlight.Ends name clock.now limit operation t reply)
    (course : Course name permit clock limit t reply asked s)
    (alone : Alone name t reply asked r s) {e : Occurrence} (quiet : e.isDeed = false) :
    Alone name t reply asked r (s.step (.once operation) e) := by
  cases alone with
  | onItsWay unfinished registry =>
    cases course with
    | ended result => simp [Journey.isOver, result] at unfinished
    | onItsWay pending early reported =>
      have settles : Alone name t reply asked r (s.settled name t reply [clock.now]) := by
        refine .ended rfl ?_ ?_
        · simp only [Journey.settled, registry]
        · simp only [Journey.settled, registry, reported]
      rw [step_of_pending ends pending early e]
      cases e with
      | proceed => exact settles
      | poll =>
        dsimp only
        split
        · exact settles
        · exact .onItsWay unfinished registry
      | wait d => exact .onItsWay unfinished registry
      | deed d => cases quiet
  | ended is_over registry reported =>
    rw [Journey.step_of_isOver _ is_over e]
    cases e with
    | proceed | poll | wait => exact .ended is_over registry reported
    | deed d => cases quiet

theorem Alone.run {r : Registry} (ends : InFlight.Ends name clock.now limit operation t reply)
    (course : Course name permit clock limit t reply asked s)
    (alone : Alone name t reply asked r s) {es : List Occurrence}
    (undisturbed : ∀ e ∈ es, e.isDeed = false) :
    Alone name t reply asked r (s.run (.once operation) es) := by
  induction es using List.reverseRecOn with
  | nil => exact alone
  | append_singleton es e ih =>
    obtain ⟨others, this⟩ := List.forall_mem_append.mp undisturbed
    rw [Journey.run_concat]
    exact (ih others).step ends (course.run ends es) (this e List.mem_cons_self)

end Undisturbed

/-- If nothing else is done, a call that is let through is the whole call. -/
theorem run_undisturbed (r : Registry) (clock : Clock) (name : String)
    (policy : Option BreakerPolicy) {permit : Permit}
    (named : (r.getOrCreate clock name policy).1.name = name)
    (let_through : (r.ask clock name policy).1 = .admitted permit) {limit : Option Nat}
    {o : Outcome α} {t : Nat} {reply : CallReply α}
    (ends : InFlight.Ends name clock.now limit (some o) t reply) {es : List Occurrence}
    (undisturbed : ∀ e ∈ es, e.isDeed = false)
    (is_over : ((start r clock name policy limit (some o)).run (.once (some o)) es).isOver = true) :
    let whole := r.perform clock name policy limit o.run
    let call := (start r clock name policy limit (some o)).run (.once (some o)) es
    call.reply? = some (whole.1.reply, whole.1.invocations) ∧ call.registry = whole.2 ∧
      call.notices = whole.1.notices := by
  intro whole call
  have parts : whole = _ := r.perform_of_ends clock name policy named let_through ends
  have course := course_admitted r clock name policy limit (some o) permit ends
  have replied := (course_run let_through ends es).reply?_eq
  have polled : ∀ e ∈ Occurrence.poll :: es, e.isDeed = false := by
    rintro e (_ | ⟨_, mem⟩)
    · rfl
    · exact undisturbed e mem
  have begins : Alone name t reply (Notice.atInstant clock.now (r.ask clock name policy).2.2)
      (r.ask clock name policy).2.1 (admitted r clock name policy limit permit) :=
    .onItsWay rfl rfl
  have alone := begins.run ends course polled
  rw [← run_start r clock name policy limit (some o) let_through] at alone
  rw [is_over, if_pos rfl] at replied
  rw [parts]
  cases alone with
  | onItsWay unfinished => exact absurd (unfinished.symm.trans is_over) Bool.false_ne_true
  | ended _ registry reported => exact ⟨replied, registry, reported⟩

end SingleCall

end Safeguard
