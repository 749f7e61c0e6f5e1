import Safeguard.Metrics
import Safeguard.Proofs.Breaker.Traffic

/-!
# What a breaker reports

The events of a breaker are a record of its run. `Traffic.told` says which events are due for a
move, from what the move does and not from how the breaker goes about it: one for a call that is
turned away, one for a call that settles, one for a change of state. A move sends these events and
no others (`events_step`).

Over a run, the changes of state form a chain from the closed state to the present one (`Chained`),
and the other events are as many as calls settled and were turned away. So whoever only hears the
events knows the state and the counts, as `Metrics` does (`reports_truthfully`).
-/

namespace Safeguard

namespace Event

/-- The change of state that an event tells of. -/
def change? : Event → Option (CircuitState × CircuitState)
  | stateChanged _ before after => some (before, after)
  | _ => none

/-- The success of the call that an event tells of the end of. -/
def ending? : Event → Option Bool
  | callCompleted _ success => some success
  | _ => none

/-- Whether an event tells of a call that was turned away. -/
def isRejection : Event → Bool
  | callRejected _ => true
  | _ => false

/-- The dependency that an event is about. -/
def dependency? : Event → Option String
  | stateChanged dependency _ _ | callRejected dependency | callCompleted dependency _ =>
    some dependency
  | retryScheduled .. => none

/-- The event of a change of state, if there is one. -/
def ofChange (dependency : String) (before after : CircuitState) : List Event :=
  if before = after then [] else [stateChanged dependency before after]

@[simp] theorem endings_ofChange (dependency : String) (before after : CircuitState) :
    (ofChange dependency before after).filterMap ending? = [] := by
  unfold ofChange
  split <;> rfl

@[simp] theorem rejections_ofChange (dependency : String) (before after : CircuitState) :
    (ofChange dependency before after).countP isRejection = 0 := by
  unfold ofChange
  split <;> rfl

end Event

/-- The changes lead from one state to another, each from where the one before has led to, and none
stays where it is. -/
def Chained (first : CircuitState) : List (CircuitState × CircuitState) → CircuitState → Prop
  | [], last => first = last
  | (before, after) :: changes, last =>
    before = first ∧ before ≠ after ∧ Chained after changes last

namespace Chained

variable {a b c : CircuitState} {changes more : List (CircuitState × CircuitState)}

theorem append (h : Chained a changes b) (h' : Chained b more c) :
    Chained a (changes ++ more) c := by
  induction changes generalizing a with
  | nil =>
    cases h
    exact h'
  | cons change changes ih =>
    obtain ⟨from_first, moves, rest⟩ := h
    exact ⟨from_first, moves, ih rest⟩

theorem ofChange (dependency : String) (before after : CircuitState) :
    Chained before ((Event.ofChange dependency before after).filterMap Event.change?) after := by
  by_cases h : before = after
  · simp [Event.ofChange, Chained, h]
  · simp [Event.ofChange, Event.change?, Chained, h]

end Chained

/-! ## The events of one operation -/

namespace Breaker

variable {α : Type}

theorem events_stateNotices (name : String) (before after : CircuitState) :
    Notice.events (stateNotices name before after) = Event.ofChange name before after := by
  unfold stateNotices Event.ofChange
  split <;> rfl

/-- Whether a call that arrives is turned away. -/
def refuses (b : Breaker) (now : Nat) : Bool :=
  match (b.ask now).1 with
  | .admitted _ => false
  | .rejected _ => true

theorem events_ask (b : Breaker) (now : Nat) :
    Notice.events (b.ask now).2.2 =
      (if b.refuses now then [.callRejected b.name] else []) ++
        Event.ofChange b.name b.circuit.state (b.ask now).2.1.circuit.state := by
  rcases b.circuit.ask_cases now with ⟨state, ask⟩ | ⟨state, -, ask⟩ | ⟨state, -, ask⟩ |
    ⟨state, wait, -, ask⟩ | ⟨state, -, ask⟩ <;>
    simp only [Breaker.ask, refuses, ask, state] <;> rfl

theorem events_succeed (b : Breaker) :
    Notice.events b.succeed.2 =
      .callCompleted b.name true ::
        Event.ofChange b.name b.circuit.state b.succeed.1.circuit.state := by
  rw [← events_stateNotices]
  unfold succeed
  dsimp only
  split <;> rfl

theorem events_fail (b : Breaker) (now : Nat) :
    Notice.events (b.fail now).2 =
      .callCompleted b.name false ::
        Event.ofChange b.name b.circuit.state (b.fail now).1.circuit.state := by
  rw [← events_stateNotices]
  unfold fail
  dsimp only
  split <;> rfl

theorem events_settle (b : Breaker) (now : Nat) (reply : CallReply α) :
    Notice.events (b.settle now reply).2 =
      .callCompleted b.name reply.toBool ::
        Event.ofChange b.name b.circuit.state (b.settle now reply).1.circuit.state := by
  match reply with
  | .ok _ => exact events_succeed b
  | .error (.timedOut ..) => exact events_fail b now
  | .error (.rejected ..) | .error (.failed _) => exact events_fail b now

theorem events_reset (b : Breaker) :
    Notice.events b.reset.2 = Event.ofChange b.name b.circuit.state b.reset.1.circuit.state :=
  events_stateNotices ..

theorem events_forceOpen (b : Breaker) (now : Nat) :
    Notice.events (b.forceOpen now).2 =
      Event.ofChange b.name b.circuit.state (b.forceOpen now).1.circuit.state :=
  events_stateNotices ..

end Breaker

namespace Traffic

variable {α : Type}

/-- What the breaker has reported, as far as it is events. -/
def events (t : Traffic) : List Event := Notice.events t.reported

/-- Whether the move is a call that is turned away. -/
def refuses (t : Traffic) : Move α → Bool
  | .arrive _ => t.breaker.refuses t.now
  | _ => false

/-- The events that are due for a move. -/
def told (t : Traffic) (move : Move α) : List Event :=
  (if t.refuses move then [.callRejected t.breaker.name] else []) ++
    (t.outcome? move).toList.map (fun (_, success) => .callCompleted t.breaker.name success) ++
      Event.ofChange t.breaker.name t.state (t.step move).state

theorem events_turn (t : Traffic) (b : Breaker) (notices : List Notice) :
    (t.turn b notices).events = t.events ++ Notice.events notices :=
  Notice.events_append ..

/-- A move that leaves the state as it is and is neither a call that settles nor one that is turned
away is not told of. -/
theorem told_eq_nil {t : Traffic} {move : Move α} (refuses : t.refuses move = false)
    (outcome : t.outcome? move = none) (state : (t.step move).state = t.state) :
    t.told move = [] := by
  simp [told, refuses, outcome, state, Event.ofChange]

/-- A call that is dropped is not told of. -/
theorem told_drop (t : Traffic) (call : Nat) : t.told (.drop call : Move α) = [] := by
  refine told_eq_nil rfl rfl ?_
  cases out : t.calls call with
  | none => simp only [step, out]
  | some p => rw [step_drop out, state_giveUp]

theorem events_giveUp (t : Traffic) (call : Nat) (permit : Permit) :
    (t.giveUp call permit).events = t.events :=
  (t.events_turn (t.breaker.abandon permit) []).trans (List.append_nil _)

theorem told_of_outcome {t : Traffic} {move : Move α} {call : Nat} {success : Bool}
    (outcome : t.outcome? move = some (call, success)) :
    t.told move = .callCompleted t.breaker.name success ::
      Event.ofChange t.breaker.name t.state (t.step move).state := by
  have refuses : t.refuses move = false := by
    cases move with
    | arrive => cases outcome
    | _ => rfl
  simp [told, refuses, outcome]

/-- A settlement sends the events that are due. -/
theorem events_settle (t : Traffic) (call : Nat) (reply : CallReply α) :
    (t.settle call reply).events =
      t.events ++ .callCompleted t.breaker.name reply.toBool ::
        Event.ofChange t.breaker.name t.state (t.settle call reply).state := by
  have sent := t.events_turn (t.breaker.settle t.now reply).1 (t.breaker.settle t.now reply).2
  rw [Breaker.events_settle] at sent
  exact sent

/-- A move sends the events that are due. -/
theorem events_step (t : Traffic) (move : Move α) :
    (t.step move).events = t.events ++ t.told move := by
  cases move with
  | arrive limit =>
    have state : (t.arrive limit).state = (t.breaker.ask t.now).2.1.circuit.state := by
      unfold arrive
      rcases t.breaker.ask t.now with ⟨_ | _, b, notices⟩ <;> rfl
    have sent : (t.arrive limit).events = t.events ++ Notice.events (t.breaker.ask t.now).2.2 := by
      unfold arrive
      rcases t.breaker.ask t.now with ⟨_ | _, b, notices⟩ <;> exact t.events_turn b notices
    rw [step, sent, Breaker.events_ask, told, step, state]
    simp only [outcome?, Option.toList_none, List.map_nil, List.append_nil]
    rfl
  | reply call reply =>
    cases out : t.calls call with
    | none =>
      have same : t.step (.reply call reply) = t := by simp only [step, out]
      rw [told_eq_nil rfl (by simp [outcome?, out]) (by rw [same]), same, List.append_nil]
    | some p =>
      have settles : t.step (.reply call reply) = t.settle call (.ofReply reply) := by
        simp only [step, out]
      have same : (CallReply.ofReply reply).toBool = reply.toBool := by cases reply <;> rfl
      have outcome : t.outcome? (.reply call reply) = some (call, reply.toBool) := by
        simp [outcome?, out]
      rw [told_of_outcome outcome, settles, events_settle, same]
  | expire call =>
    cases overdue : (t.calls call).bind fun p => p.overdue? t.now with
    | none =>
      have same : t.step (.expire call : Move α) = t := by simp only [step, overdue]
      rw [told_eq_nil rfl (by simp [outcome?, overdue]) (by rw [same]), same, List.append_nil]
    | some limit =>
      have settles : t.step (.expire call : Move α) =
          t.settle (α := α) call (.error (.timedOut t.breaker.name limit)) := by
        simp only [step, overdue]
      have outcome : t.outcome? (.expire call : Move α) = some (call, false) := by
        simp [outcome?, overdue]
      rw [told_of_outcome outcome, settles, events_settle]
      rfl
  | drop call =>
    rw [told_drop, List.append_nil]
    cases out : t.calls call with
    | none => simp only [step, out]
    | some p => rw [step_drop out, events_giveUp]
  | reset =>
    have sent := t.events_turn t.breaker.reset.1 t.breaker.reset.2
    rw [Breaker.events_reset] at sent
    exact sent
  | forceOpen =>
    have sent := t.events_turn (t.breaker.forceOpen t.now).1 (t.breaker.forceOpen t.now).2
    rw [Breaker.events_forceOpen] at sent
    exact sent
  | wait d =>
    rw [told_eq_nil rfl rfl rfl, List.append_nil]
    rfl

theorem dependency_told (t : Traffic) (move : Move α) :
    ∀ e ∈ t.told move, e.dependency? = some t.breaker.name := by
  intro e mem
  simp only [told, Event.ofChange, List.mem_append, List.mem_map] at mem
  rcases mem with (mem | ⟨o, -, rfl⟩) | mem
  · split at mem
    · rw [List.mem_singleton.1 mem]
      rfl
    · cases mem
  · rfl
  · split at mem
    · cases mem
    · rw [List.mem_singleton.1 mem]
      rfl

/-! ## The events of a run -/

/-- The events that are due for the moves of a run. -/
def toldAll (t : Traffic) : List (Move α) → List Event
  | [] => []
  | move :: moves => t.told move ++ (t.step move).toldAll moves

/-- The calls that settle in a run, and whether they succeed. -/
def outcomes (t : Traffic) : List (Move α) → List (Nat × Bool)
  | [] => []
  | move :: moves => (t.outcome? move).toList ++ (t.step move).outcomes moves

/-- How many calls are turned away in a run. -/
def refusals (t : Traffic) : List (Move α) → Nat
  | [] => 0
  | move :: moves => (t.refuses move).toNat + (t.step move).refusals moves

theorem events_run (t : Traffic) (moves : List (Move α)) :
    (t.run moves).events = t.events ++ t.toldAll moves := by
  induction moves generalizing t with
  | nil => simp [toldAll]
  | cons move moves ih =>
    rw [toldAll, ← List.append_assoc, ← events_step]
    exact ih (t.step move)

theorem dependency_toldAll (t : Traffic) (moves : List (Move α)) :
    ∀ e ∈ t.toldAll moves, e.dependency? = some t.breaker.name := by
  induction moves generalizing t with
  | nil => simp [toldAll]
  | cons move moves ih =>
    intro e mem
    rcases List.mem_append.1 mem with mem | mem
    · exact t.dependency_told move e mem
    · rw [ih (t.step move) e mem, (sameGuard_change (change_step t move)).1]

theorem changes_told (t : Traffic) (move : Move α) :
    (t.told move).filterMap Event.change? =
      (Event.ofChange t.breaker.name t.state (t.step move).state).filterMap Event.change? := by
  rcases outcome : t.outcome? move with _ | ⟨i, success⟩ <;> cases refuses : t.refuses move <;>
    simp only [told, outcome, refuses] <;> rfl

theorem endings_told (t : Traffic) (move : Move α) :
    (t.told move).filterMap Event.ending? = (t.outcome? move).toList.map Prod.snd := by
  rw [told, List.filterMap_append, Event.endings_ofChange, List.append_nil]
  rcases outcome : t.outcome? move with _ | ⟨i, success⟩ <;> cases refuses : t.refuses move <;> rfl

theorem rejections_told (t : Traffic) (move : Move α) :
    (t.told move).countP Event.isRejection = (t.refuses move).toNat := by
  rw [told, List.countP_append, Event.rejections_ofChange, Nat.add_zero]
  rcases outcome : t.outcome? move with _ | ⟨i, success⟩ <;> cases refuses : t.refuses move <;> rfl

theorem chained_toldAll (t : Traffic) (moves : List (Move α)) :
    Chained t.state ((t.toldAll moves).filterMap Event.change?) (t.run moves).state := by
  induction moves generalizing t with
  | nil => exact rfl
  | cons move moves ih =>
    rw [toldAll, List.filterMap_append, changes_told]
    exact (Chained.ofChange _ _ _).append (ih (t.step move))

theorem endings_toldAll (t : Traffic) (moves : List (Move α)) :
    (t.toldAll moves).filterMap Event.ending? = (t.outcomes moves).map Prod.snd := by
  induction moves generalizing t with
  | nil => rfl
  | cons move moves ih =>
    rw [toldAll, outcomes, List.filterMap_append, endings_told, ih, List.map_append]

theorem rejections_toldAll (t : Traffic) (moves : List (Move α)) :
    (t.toldAll moves).countP Event.isRejection = t.refusals moves := by
  induction moves generalizing t with
  | nil => rfl
  | cons move moves ih => rw [toldAll, refusals, List.countP_append, rejections_told, ih]

end Traffic

/-! ## The metrics of one dependency -/

namespace Metrics

variable {name : String}

/-- The gauge of the state shows where a chain of changes has led to, once there has been one. -/
theorem gauge?_recordAll (m : Metrics) {events : List Event}
    (about : ∀ e ∈ events, e.dependency? = some name) {first last : CircuitState}
    (chained : Chained first (events.filterMap Event.change?) last) :
    (m.recordAll events).gauge? (.circuitState name) =
      if events.filterMap Event.change? = [] then m.gauge? (.circuitState name)
      else some last.gauge := by
  induction events generalizing m first with
  | nil => rfl
  | cons e events ih =>
    have rest := fun e mem => about e (List.mem_cons_of_mem _ mem)
    have own := about e List.mem_cons_self
    cases e with
    | stateChanged dependency before after =>
      cases own
      obtain ⟨-, -, chained⟩ := chained
      refine (ih (m.set (.circuitState name) after.gauge) rest chained).trans ?_
      simp only [List.filterMap_cons, Event.change?, reduceCtorEq, if_false, gauge?_set_self]
      -- a change that is the last one leads to the last state
      split
      · rename_i none_left
        rw [none_left] at chained
        rw [chained]
      · rfl
    | callRejected | callCompleted | retryScheduled => exact ih _ rest chained

/-- The counter of calls that ended one way grows by one with every event of such an end. -/
theorem calls_recordAll (m : Metrics) {events : List Event}
    (about : ∀ e ∈ events, e.dependency? = some name) (success : Bool) :
    ((m.recordAll events).counter? (.calls name success)).getD 0 =
      (m.counter? (.calls name success)).getD 0 +
        (events.filterMap Event.ending?).count success := by
  induction events generalizing m with
  | nil => rfl
  | cons e events ih =>
    refine (ih (m.record e) fun e mem => about e (List.mem_cons_of_mem _ mem)).trans ?_
    have own := about e List.mem_cons_self
    cases e with
    | stateChanged => rfl
    | retryScheduled => cases own
    | callRejected =>
      have other : Series.calls name success ≠ .rejected name := by
        simp [Series.calls, Series.rejected]
      cases own
      rw [record, counter?_count_ne _ other]
      rfl
    | callCompleted dependency ended =>
      cases own
      by_cases same : success = ended
      · subst same
        simp only [record, counter?_count_self, Option.getD_some, List.filterMap_cons,
          Event.ending?, List.count_cons_self]
        omega
      · have other : Series.calls name success ≠ .calls name ended := by
          cases success <;> cases ended <;> simp_all [Series.calls, Series.outcome]
        simp [record, counter?_count_ne _ other, Event.ending?, Ne.symm same]

/-- The counter of rejections grows by one with every event of a rejection. -/
theorem rejected_recordAll (m : Metrics) {events : List Event}
    (about : ∀ e ∈ events, e.dependency? = some name) :
    ((m.recordAll events).counter? (.rejected name)).getD 0 =
      (m.counter? (.rejected name)).getD 0 + events.countP Event.isRejection := by
  induction events generalizing m with
  | nil => rfl
  | cons e events ih =>
    refine (ih (m.record e) fun e mem => about e (List.mem_cons_of_mem _ mem)).trans ?_
    have own := about e List.mem_cons_self
    cases e with
    | stateChanged => rfl
    | retryScheduled => cases own
    | callRejected =>
      cases own
      simp only [record, counter?_count_self, Option.getD_some, List.countP_cons,
        Event.isRejection, if_true]
      omega
    | callCompleted dependency ended =>
      have other : Series.rejected name ≠ .calls name ended := by
        simp [Series.calls, Series.rejected]
      cases own
      rw [record, counter?_count_ne _ other]
      rfl

end Metrics

namespace Traffic

variable {α : Type}

/-- **A breaker reports truthfully.** In every run its changes of state form a chain from the closed
state to the present one; it tells of the end of every call that settles and of no other, in order,
and of every call that is turned away; each move sends exactly the events that are due for it, and
a call that is dropped sends none. So the gauge of the state, once written, shows the present state,
and the counters show how many calls succeeded, failed and were turned away. -/
theorem reports_truthfully (name : String) (policy : BreakerPolicy) (clock : Clock)
    (moves : List (Move α)) :
    let t := (start name policy clock).run moves
    let outcomes := (start name policy clock).outcomes moves
    let changes := t.events.filterMap Event.change?
    let metrics := ({} : Metrics).recordAll t.events
    (∀ e ∈ t.events, e.dependency? = some name) ∧
      Chained .closed changes t.state ∧
      t.events.filterMap Event.ending? = outcomes.map Prod.snd ∧
      t.events.countP Event.isRejection = (start name policy clock).refusals moves ∧
      (∀ move : Move α, (t.step move).events = t.events ++ t.told move) ∧
      (∀ call, t.told (.drop call : Move α) = []) ∧
      metrics.gauge? (.circuitState name) =
        (if changes = [] then none else some t.state.gauge) ∧
      (∀ success, (metrics.counter? (.calls name success)).getD 0 =
        (outcomes.map Prod.snd).count success) ∧
      (metrics.counter? (.rejected name)).getD 0 = (start name policy clock).refusals moves := by
  intro t outcomes changes metrics
  have sent : t.events = (start name policy clock).toldAll moves :=
    (start name policy clock).events_run moves
  have about : ∀ e ∈ t.events, e.dependency? = some name := by
    rw [sent]
    exact dependency_toldAll _ moves
  have chained : Chained .closed changes t.state := by
    simp only [changes, sent]
    exact chained_toldAll (start name policy clock) moves
  have endings : t.events.filterMap Event.ending? = outcomes.map Prod.snd := by
    rw [sent, endings_toldAll]
  have rejections : t.events.countP Event.isRejection =
      (start name policy clock).refusals moves := by
    rw [sent, rejections_toldAll]
  refine ⟨about, chained, endings, rejections, t.events_step, t.told_drop, ?_,
    fun success => ?_, ?_⟩
  · exact Metrics.gauge?_recordAll {} about chained
  · rw [Metrics.calls_recordAll {} about, endings]
    exact Nat.zero_add _
  · rw [Metrics.rejected_recordAll {} about, rejections]
    exact Nat.zero_add _

end Traffic

end Safeguard
