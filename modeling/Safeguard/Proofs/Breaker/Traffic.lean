import Mathlib.Data.Nat.Basic
import Mathlib.Order.Basic
import Safeguard.Call.Basic

/-!
# Traffic at a breaker

The calls through one breaker overlap: a call that was let through may settle, or be dropped, long
after the circuit has changed under it. `Traffic` is a breaker at some instant with the calls on
their way, a `Move` one thing that happens to it, and `Traffic.run` carries out moves in any order.
What the breaker does in a move is what its operations do; the rest is the record of who is on the
way. Calls are numbered in the order in which they were let through.

Half-open periods are counted as well. `Traffic.periods` says how often the circuit has become half
open, and every call remembers that number, so that a trial of the present period can be told from
one of an earlier period (`Traffic.OnTrial`).

* `Change` lists what a move does, case by case, and `change_step` says that the list is complete;
  `Change.of_halfOpen` is the shorter list of those that end half open.
* `breaker_run_whole` takes a whole call, as `Breaker.perform` carries it out, for a run of moves.
* `run_induction` proves of every run what holds at the start and is kept by every move.
-/

namespace Safeguard

/-- A call that has been let through and has not settled. -/
structure Passage where
  permit : Permit
  begun : Nat
  /-- How long the operation may take. -/
  limit : Option Nat
  /-- How often the circuit had become half open when the call was let through. -/
  period : Nat
  deriving DecidableEq

namespace Passage

/-- The limit, if it has passed. -/
def overdue? (p : Passage) (now : Nat) : Option Nat :=
  p.limit.filter fun limit => due p.begun limit ≤ now

end Passage

/-- A breaker at some instant, with the calls on their way. -/
structure Traffic where
  breaker : Breaker
  now : Nat
  /-- The calls on their way, by number. -/
  calls : Nat → Option Passage := fun _ => none
  /-- How many calls have been let through. -/
  admitted : Nat := 0
  /-- The last call that was let through as a trial. -/
  newest : Option Nat := none
  /-- How often the circuit has become half open. -/
  periods : Nat := 0
  /-- What the breaker has reported. -/
  reported : List Notice := []

/-- Something that happens at a breaker. -/
inductive Move (α : Type)
  /-- A call arrives, with a limit or without. -/
  | arrive (limit : Option Nat)
  /-- The operation of a call replies. -/
  | reply (call : Nat) (reply : Reply α)
  /-- The limit of a call passes before its operation has replied. -/
  | expire (call : Nat)
  /-- A call is dropped. -/
  | drop (call : Nat)
  | reset
  | forceOpen
  /-- Time passes. -/
  | wait (d : Nat)

/-- The call that a move is one of. -/
def Move.call? {α : Type} : Move α → Option Nat
  | reply call _ | expire call | drop call => some call
  | _ => none

namespace Traffic

variable {α : Type}

/-- The circuit of the breaker. -/
abbrev circuit (t : Traffic) : Circuit := t.breaker.circuit

/-- The state of the circuit. -/
abbrev state (t : Traffic) : CircuitState := t.breaker.circuit.state

/-- A new breaker, with no call on its way. -/
def start (name : String) (policy : BreakerPolicy) (clock : Clock) : Traffic where
  breaker := .create name policy clock
  now := clock.now

/-- The breaker after one of its operations. -/
def turn (t : Traffic) (breaker : Breaker) (notices : List Notice) : Traffic :=
  { t with
    breaker
    reported := t.reported ++ notices
    periods :=
      if t.state ≠ .halfOpen ∧ breaker.circuit.state = .halfOpen then t.periods + 1
      else t.periods }

/-- One more call on its way. -/
def letThrough (t : Traffic) (permit : Permit) (limit : Option Nat) : Traffic :=
  { t with
    calls :=
      Function.update t.calls t.admitted
        (some { permit, begun := t.now, limit, period := t.periods })
    admitted := t.admitted + 1
    newest := if permit.trial then some t.admitted else t.newest }

/-- One call less on its way. -/
def leave (t : Traffic) (call : Nat) : Traffic :=
  { t with calls := Function.update t.calls call none }

/-- A call arrives. -/
def arrive (t : Traffic) (limit : Option Nat) : Traffic :=
  let (admission, breaker, notices) := t.breaker.ask t.now
  match admission with
  | .admitted permit => (t.turn breaker notices).letThrough permit limit
  | .rejected _ => t.turn breaker notices

/-- A call settles. -/
def settle (t : Traffic) (call : Nat) (reply : CallReply α) : Traffic :=
  let (breaker, notices) := t.breaker.settle t.now reply
  (t.turn breaker notices).leave call

/-- A call is dropped. -/
def giveUp (t : Traffic) (call : Nat) (permit : Permit) : Traffic :=
  (t.turn (t.breaker.abandon permit) []).leave call

/-- The traffic after a move. A move of a call that is not on its way does nothing, and neither
does a limit that has not passed. -/
def step (t : Traffic) : Move α → Traffic
  | .arrive limit => t.arrive limit
  | .reply call reply =>
    match t.calls call with
    | some _ => t.settle call (.ofReply reply)
    | none => t
  | .expire call =>
    match (t.calls call).bind fun p => p.overdue? t.now with
    | some limit => t.settle (α := α) call (.error (.timedOut t.breaker.name limit))
    | none => t
  | .drop call =>
    match t.calls call with
    | some p => t.giveUp call p.permit
    | none => t
  | .reset => t.turn t.breaker.reset.1 t.breaker.reset.2
  | .forceOpen => t.turn (t.breaker.forceOpen t.now).1 (t.breaker.forceOpen t.now).2
  | .wait d => { t with now := t.now + d }

/-- The traffic after moves, one after the other. -/
def run (t : Traffic) (moves : List (Move α)) : Traffic := moves.foldl step t

/-- The call that settles in a move, if one does, and whether it succeeds. -/
def outcome? (t : Traffic) : Move α → Option (Nat × Bool)
  | .reply call reply => (t.calls call).map fun _ => (call, reply.toBool)
  | .expire call => ((t.calls call).bind fun p => p.overdue? t.now).map fun _ => (call, false)
  | _ => none

/-- Call `i` is on its way as a trial of the last half-open period. -/
def OnTrial (t : Traffic) (i : Nat) : Prop :=
  ∃ p, t.calls i = some p ∧ p.permit.trial = true ∧ p.period = t.periods

/-! ## What a turn of the breaker leaves alone -/

section Turn

variable (t : Traffic) (b : Breaker) (notices : List Notice)

@[simp] theorem breaker_turn : (t.turn b notices).breaker = b := rfl

@[simp] theorem now_turn : (t.turn b notices).now = t.now := rfl

@[simp] theorem calls_turn : (t.turn b notices).calls = t.calls := rfl

@[simp] theorem admitted_turn : (t.turn b notices).admitted = t.admitted := rfl

@[simp] theorem newest_turn : (t.turn b notices).newest = t.newest := rfl

theorem periods_le_turn : t.periods ≤ (t.turn b notices).periods := by
  unfold turn
  dsimp only
  split <;> omega

/-- A period begins only when the circuit becomes half open. -/
theorem periods_turn (h : b.circuit.state = .halfOpen → t.state = .halfOpen) :
    (t.turn b notices).periods = t.periods :=
  if_neg fun ⟨before, after⟩ => before (h after)

theorem periods_turn_of_halfOpen (before : t.state ≠ .halfOpen)
    (after : b.circuit.state = .halfOpen) : (t.turn b notices).periods = t.periods + 1 :=
  if_pos ⟨before, after⟩

end Turn

/-! ## Calls that come and go -/

section Calls

variable (t : Traffic) (permit : Permit) (limit : Option Nat) (call : Nat)

@[simp] theorem breaker_letThrough : (t.letThrough permit limit).breaker = t.breaker := rfl

@[simp] theorem now_letThrough : (t.letThrough permit limit).now = t.now := rfl

@[simp] theorem admitted_letThrough : (t.letThrough permit limit).admitted = t.admitted + 1 := rfl

@[simp] theorem periods_letThrough : (t.letThrough permit limit).periods = t.periods := rfl

@[simp] theorem calls_letThrough_self :
    (t.letThrough permit limit).calls t.admitted =
      some { permit, begun := t.now, limit, period := t.periods } :=
  Function.update_self ..

theorem calls_letThrough_of_ne {i : Nat} (h : i ≠ t.admitted) :
    (t.letThrough permit limit).calls i = t.calls i :=
  Function.update_of_ne h ..

theorem newest_letThrough_of_trial (h : permit.trial = true) :
    (t.letThrough permit limit).newest = some t.admitted :=
  if_pos h

theorem newest_letThrough_of_not (h : permit.trial = false) :
    (t.letThrough permit limit).newest = t.newest :=
  if_neg (by simp [h])

@[simp] theorem breaker_leave : (t.leave call).breaker = t.breaker := rfl

@[simp] theorem now_leave : (t.leave call).now = t.now := rfl

@[simp] theorem admitted_leave : (t.leave call).admitted = t.admitted := rfl

@[simp] theorem newest_leave : (t.leave call).newest = t.newest := rfl

@[simp] theorem periods_leave : (t.leave call).periods = t.periods := rfl

theorem calls_leave_eq_some_iff {i : Nat} {p : Passage} :
    (t.leave call).calls i = some p ↔ i ≠ call ∧ t.calls i = some p := by
  by_cases h : i = call
  · simp [leave, h]
  · simp [leave, h]

@[simp] theorem circuit_giveUp :
    (t.giveUp call permit).circuit = t.circuit.abandon permit := rfl

@[simp] theorem admitted_giveUp : (t.giveUp call permit).admitted = t.admitted := rfl

@[simp] theorem newest_giveUp : (t.giveUp call permit).newest = t.newest := rfl

@[simp] theorem state_giveUp : (t.giveUp call permit).state = t.state :=
  t.circuit.state_abandon permit

@[simp] theorem periods_giveUp : (t.giveUp call permit).periods = t.periods :=
  t.periods_turn (t.breaker.abandon permit) [] fun state =>
    (t.circuit.state_abandon permit).symm.trans state

theorem calls_giveUp_eq_some_iff {i : Nat} {p : Passage} :
    (t.giveUp call permit).calls i = some p ↔ i ≠ call ∧ t.calls i = some p :=
  (t.turn (t.breaker.abandon permit) []).calls_leave_eq_some_iff call

end Calls

/-! ## What a move does -/

/-- What a move does, case by case. -/
inductive Change (t : Traffic) : Move α → Traffic → Prop
  /-- A closed circuit lets a call through. -/
  | passed (limit : Option Nat) (closed : t.state = .closed) :
      Change t (.arrive limit)
        ((t.turn t.breaker (t.breaker.ask t.now).2.2).letThrough ⟨false⟩ limit)
  /-- An open circuit whose wait is over becomes half open. -/
  | tried (limit : Option Nat) (opened : t.state = .opened)
      (ended : t.circuit.remaining? t.now = none) :
      Change t (.arrive limit)
        ((t.turn
          { t.breaker with
            circuit :=
              { t.circuit with state := .halfOpen, nextAttempt := none, trialOut := true } }
          (t.breaker.ask t.now).2.2).letThrough ⟨true⟩ limit)
  /-- A half-open circuit lets another trial through. -/
  | retried (limit : Option Nat) (halfOpen : t.state = .halfOpen)
      (free : t.circuit.trialOut = false) :
      Change t (.arrive limit)
        ((t.turn { t.breaker with circuit := { t.circuit with trialOut := true } }
          (t.breaker.ask t.now).2.2).letThrough ⟨true⟩ limit)
  | refused (limit retryIn : Option Nat)
      (rejected : t.circuit.ask t.now = (.rejected retryIn, t.circuit)) :
      Change t (.arrive limit) (t.turn t.breaker (t.breaker.ask t.now).2.2)
  | succeeded {move : Move α} {call : Nat} {p : Passage} (out : t.calls call = some p)
      (outcome : t.outcome? move = some (call, true)) :
      Change t move ((t.turn t.breaker.succeed.1 t.breaker.succeed.2).leave call)
  | failed {move : Move α} {call : Nat} {p : Passage} (reply : CallReply α)
      (out : t.calls call = some p) (outcome : t.outcome? move = some (call, false)) :
      Change t move
        ((t.turn (t.breaker.fail t.now).1 (t.breaker.settle t.now reply).2).leave call)
  | dropped {call : Nat} {p : Passage} (out : t.calls call = some p) :
      Change t (.drop call) (t.giveUp call p.permit)
  | wasReset : Change t .reset (t.turn t.breaker.reset.1 t.breaker.reset.2)
  | forcedOpen :
      Change t .forceOpen (t.turn (t.breaker.forceOpen t.now).1 (t.breaker.forceOpen t.now).2)
  | waited (d : Nat) : Change t (.wait d) { t with now := t.now + d }
  /-- The move is that of a call that is not on its way, or of a limit that has not passed. -/
  | idle {move : Move α} {call : Nat} (about : move.call? = some call)
      (outcome : t.outcome? move = none) : Change t move t

theorem change_arrive (t : Traffic) (limit : Option Nat) :
    Change t (.arrive limit : Move α) (t.arrive limit) := by
  have spec : (t.breaker.ask t.now).1 = (t.circuit.ask t.now).1 ∧
      (t.breaker.ask t.now).2.1 = { t.breaker with circuit := (t.circuit.ask t.now).2 } :=
    ⟨rfl, rfl⟩
  unfold arrive
  rcases h : t.breaker.ask t.now with ⟨admission, b, notices⟩
  rw [h] at spec
  obtain ⟨rfl, rfl⟩ := spec
  rcases t.circuit.ask_cases t.now with ⟨closed, ask⟩ | ⟨opened, ended, ask⟩ |
    ⟨halfOpen, free, ask⟩ | ⟨opened, wait, -, ask⟩ | ⟨halfOpen, taken, ask⟩
  · have := Change.passed (α := α) limit closed
    simpa only [ask, h] using this
  · have := Change.tried (α := α) limit opened ended
    simpa only [ask, h] using this
  · have := Change.retried (α := α) limit halfOpen free
    simpa only [ask, h] using this
  · have := Change.refused (α := α) limit (some wait) ask
    simpa only [ask, h] using this
  · have := Change.refused (α := α) limit none ask
    simpa only [ask, h] using this

/-- A move does one of the things that `Change` lists. -/
theorem change_step (t : Traffic) (move : Move α) : Change t move (t.step move) := by
  cases move with
  | arrive limit => exact change_arrive t limit
  | reply call reply =>
    cases out : t.calls call with
    | none =>
      simp only [step, out]
      exact .idle rfl (by simp [outcome?, out])
    | some p =>
      simp only [step, out]
      cases reply with
      | ok value => exact .succeeded out (by simp [outcome?, out, Except.toBool])
      | error e =>
        exact .failed (.error (.failed e)) out (by simp [outcome?, out, Except.toBool])
  | expire call =>
    simp only [step]
    cases overdue : (t.calls call).bind fun p => p.overdue? t.now with
    | none => exact .idle rfl (by simp [outcome?, overdue])
    | some limit =>
      obtain ⟨p, out, -⟩ := Option.bind_eq_some_iff.1 overdue
      exact .failed (.error (.timedOut t.breaker.name limit)) out (by simp [outcome?, overdue])
  | drop call =>
    cases out : t.calls call with
    | none =>
      simp only [step, out]
      exact .idle rfl rfl
    | some p =>
      simp only [step, out]
      exact .dropped out
  | reset => exact .wasReset
  | forceOpen => exact .forcedOpen
  | wait d => exact .waited d

/-- What a move does after which the circuit is half open, case by case. -/
inductive HalfOpenChange (t : Traffic) : Move α → Traffic → Prop
  | tried (limit : Option Nat) (opened : t.state = .opened) :
      HalfOpenChange t (.arrive limit)
        ((t.turn
          { t.breaker with
            circuit :=
              { t.circuit with state := .halfOpen, nextAttempt := none, trialOut := true } }
          (t.breaker.ask t.now).2.2).letThrough ⟨true⟩ limit)
  | retried (limit : Option Nat) (halfOpen : t.state = .halfOpen)
      (free : t.circuit.trialOut = false) :
      HalfOpenChange t (.arrive limit)
        ((t.turn { t.breaker with circuit := { t.circuit with trialOut := true } }
          (t.breaker.ask t.now).2.2).letThrough ⟨true⟩ limit)
  | dropped {call : Nat} {p : Passage} (out : t.calls call = some p)
      (halfOpen : t.state = .halfOpen) :
      HalfOpenChange t (.drop call) (t.giveUp call p.permit)
  /-- Nothing happens but that time passes or a call is turned away. -/
  | kept {move : Move α} (now : Nat) (reported : List Notice) (halfOpen : t.state = .halfOpen) :
      HalfOpenChange t move { t with now, reported }

/-- A settlement, a reset and a forced opening never leave the circuit half open. -/
theorem Change.of_halfOpen {t t' : Traffic} {move : Move α} (c : Change t move t')
    (state : t'.state = .halfOpen) : HalfOpenChange t move t' := by
  cases c with
  | passed _ closed => cases closed.symm.trans state
  | tried limit opened => exact .tried limit opened
  | retried limit halfOpen free => exact .retried limit halfOpen free
  | refused =>
    have same : t.turn t.breaker (t.breaker.ask t.now).2.2 =
        { t with reported := t.reported ++ (t.breaker.ask t.now).2.2 } := by
      rw [turn, if_neg fun ⟨before, after⟩ => before after]
    rw [same]
    exact .kept t.now _ state
  | succeeded => exact absurd state t.circuit.state_succeed_ne_halfOpen
  | failed => exact absurd state (t.circuit.state_fail_ne_halfOpen _ _)
  | dropped out => exact .dropped out (t.state_giveUp .. ▸ state)
  | wasReset | forcedOpen => cases state
  | waited | idle => exact .kept _ _ state

/-- A call that settles is on its way until then. -/
theorem out_of_outcome {t : Traffic} {move : Move α} {call : Nat} {success : Bool}
    (h : t.outcome? move = some (call, success)) : ∃ p, t.calls call = some p := by
  cases move with
  | reply call' reply =>
    obtain ⟨p, out, eq⟩ := Option.map_eq_some_iff.1 h
    cases eq
    exact ⟨p, out⟩
  | expire call' =>
    obtain ⟨limit, overdue, eq⟩ := Option.map_eq_some_iff.1 h
    cases eq
    obtain ⟨p, out, -⟩ := Option.bind_eq_some_iff.1 overdue
    exact ⟨p, out⟩
  | _ => cases h

theorem step_drop {t : Traffic} {call : Nat} {p : Passage} (out : t.calls call = some p) :
    t.step (.drop call : Move α) = t.giveUp call p.permit := by
  simp only [step, out]

/-! ## Runs -/

@[simp] theorem run_nil (t : Traffic) : t.run ([] : List (Move α)) = t := rfl

theorem run_append (t : Traffic) (moves more : List (Move α)) :
    t.run (moves ++ more) = (t.run moves).run more := List.foldl_append

theorem run_concat (t : Traffic) (moves : List (Move α)) (move : Move α) :
    t.run (moves ++ [move]) = (t.run moves).step move := by
  rw [run_append]
  rfl

/-- What holds at the start and is kept by every move of a run holds after it. -/
theorem run_induction {P : Traffic → Prop} {t : Traffic} (start : P t) (moves : List (Move α))
    (step : ∀ (t t' : Traffic), ∀ move ∈ moves, P t → Change t move t' → P t') :
    P (t.run moves) := by
  induction moves generalizing t with
  | nil => exact start
  | cons move moves ih =>
    refine ih (step t _ move List.mem_cons_self start (change_step t move)) ?_
    intro t t' move mem
    exact step t t' move (List.mem_cons_of_mem _ mem)

/-- Nothing changes the name or the policy of the breaker. -/
theorem sameGuard_change {t t' : Traffic} {move : Move α} (h : Change t move t') :
    t'.breaker.SameGuard t.breaker := by
  cases h with
  | passed | tried | retried | refused | wasReset | forcedOpen | waited | idle =>
    exact ⟨rfl, rfl, rfl⟩
  | succeeded => exact Breaker.sameGuard_succeed _
  | failed => exact Breaker.sameGuard_fail _ _
  | dropped => exact Breaker.sameGuard_abandon _ _

theorem sameGuard_run (t : Traffic) (moves : List (Move α)) :
    (t.run moves).breaker.SameGuard t.breaker :=
  run_induction (P := fun t' => t'.breaker.SameGuard t.breaker) (.refl _) moves
    fun _ _ _ _ h c => (sameGuard_change c).trans h

theorem admitted_le_change {t t' : Traffic} {move : Move α} (h : Change t move t') :
    t.admitted ≤ t'.admitted := by
  cases h with
  | passed | tried | retried => exact Nat.le_succ _
  | _ => exact Nat.le_refl _

theorem now_le_change {t t' : Traffic} {move : Move α} (h : Change t move t') :
    t.now ≤ t'.now := by
  cases h with
  | waited d => exact Nat.le_add_right _ _
  | _ => exact Nat.le_refl _

/-! ## A call that nothing comes between -/

/-- The moves of a whole call: it arrives and, if it is let through, its operation replies or the
limit passes. -/
def whole (t : Traffic) (limit : Option Nat) (operation : Operation (Reply α)) : List (Move α) :=
  match (t.breaker.ask t.now).1, limit with
  | .rejected _, _ => [.arrive limit]
  | .admitted _, none =>
    [.arrive none, .wait ((operation t.now).finished - t.now),
      .reply t.admitted (operation t.now).reply]
  | .admitted _, some d =>
    if (operation t.now).finished ≤ due t.now d then
      [.arrive (some d), .wait ((operation t.now).finished - t.now),
        .reply t.admitted (operation t.now).reply]
    else [.arrive (some d), .wait (due t.now d - t.now), .expire t.admitted]

theorem breaker_step_reply {t : Traffic} {call : Nat} {p : Passage} (out : t.calls call = some p)
    (reply : Reply α) :
    (t.step (.reply call reply)).breaker = (t.breaker.settle t.now (.ofReply reply)).1 := by
  simp only [step, out]
  rfl

theorem breaker_step_expire {t : Traffic} {call limit : Nat} {p : Passage}
    (out : t.calls call = some p) (overdue : p.overdue? t.now = some limit) :
    (t.step (.expire call : Move α)).breaker =
      (t.breaker.settle (α := α) t.now (.error (.timedOut t.breaker.name limit))).1 := by
  simp only [step, out, Option.bind_some, overdue]
  rfl

/-- A whole call is a run of its moves. -/
theorem breaker_run_whole (t : Traffic) (limit : Option Nat) (operation : Operation (Reply α))
    (begun : t.now ≤ (operation t.now).finished) :
    (t.run (t.whole limit operation)).breaker = (t.breaker.perform t.now limit operation).2 := by
  rcases ask : t.breaker.ask t.now with ⟨admission, b, notices⟩
  cases admission with
  | rejected retryIn =>
    simp only [whole, ask, Breaker.perform, run, List.foldl, step, arrive, breaker_turn]
  | admitted permit =>
    have first (limit : Option Nat) (d : Nat) (last : Move α) :
        t.run [.arrive limit, .wait d, last] =
          (((t.turn b notices).letThrough permit limit).step (.wait d : Move α)).step last := by
      simp only [run, List.foldl, step, arrive, ask]
    have out (limit : Option Nat) (d : Nat) :
        (((t.turn b notices).letThrough permit limit).step (.wait d : Move α)).calls t.admitted =
          some ⟨permit, t.now, limit, (t.turn b notices).periods⟩ :=
      calls_letThrough_self (t.turn b notices) permit limit
    have now (limit : Option Nat) {d later : Nat} (h : t.now + d = later) :
        (((t.turn b notices).letThrough permit limit).step (.wait d : Move α)).now = later := h
    cases limit with
    | none =>
      have now := now none (Nat.add_sub_cancel' begun)
      simp only [whole, ask, first, breaker_step_reply (out ..), now, Breaker.perform]
      rfl
    | some d =>
      have le : t.now ≤ due t.now d := (Nat.le_add_right _ _).trans (le_due _ _)
      by_cases inTime : (operation t.now).finished ≤ due t.now d
      · have now := now (some d) (Nat.add_sub_cancel' begun)
        simp only [whole, ask, first, if_pos inTime, breaker_step_reply (out ..), now,
          Breaker.perform, Breaker.limited, Run.within]
        rfl
      · have now := now (some d) (Nat.add_sub_cancel' le)
        have overdue : Passage.overdue? ⟨permit, t.now, some d, (t.turn b notices).periods⟩
            (due t.now d) = some d := by
          simp [Passage.overdue?]
        rw [← now] at overdue
        simp only [whole, ask, first, if_neg inTime, breaker_step_expire (out ..) overdue, now,
          Breaker.perform, Breaker.limited, Run.within]
        rfl

/-! ## The numbers of the calls -/

/-- What holds of the numbers of the calls and of the periods that they remember. -/
structure Numbered (t : Traffic) : Prop where
  calls_lt : ∀ i p, t.calls i = some p → i < t.admitted
  period_le : ∀ i p, t.calls i = some p → p.period ≤ t.periods
  newest_lt : ∀ n, t.newest = some n → n < t.admitted
  newest_trial : ∀ n p, t.newest = some n → t.calls n = some p → p.permit.trial = true

namespace Numbered

variable {t : Traffic}

theorem turn (h : t.Numbered) (b : Breaker) (notices : List Notice) :
    (t.turn b notices).Numbered where
  calls_lt := h.calls_lt
  period_le i p out := (h.period_le i p out).trans (t.periods_le_turn b notices)
  newest_lt := h.newest_lt
  newest_trial := h.newest_trial

theorem leave (h : t.Numbered) (call : Nat) : (t.leave call).Numbered where
  calls_lt i p out := h.calls_lt i p ((t.calls_leave_eq_some_iff call).1 out).2
  period_le i p out := h.period_le i p ((t.calls_leave_eq_some_iff call).1 out).2
  newest_lt := h.newest_lt
  newest_trial n p newest out :=
    h.newest_trial n p newest ((t.calls_leave_eq_some_iff call).1 out).2

theorem letThrough (h : t.Numbered) (permit : Permit) (limit : Option Nat) :
    (t.letThrough permit limit).Numbered where
  calls_lt i p out := by
    by_cases new : i = t.admitted
    · simp [new]
    · rw [calls_letThrough_of_ne _ _ _ new] at out
      exact (h.calls_lt i p out).trans (Nat.lt_succ_self _)
  period_le i p out := by
    by_cases new : i = t.admitted
    · subst new
      rw [calls_letThrough_self] at out
      cases out
      exact Nat.le_refl _
    · rw [calls_letThrough_of_ne _ _ _ new] at out
      exact h.period_le i p out
  newest_lt n newest := by
    cases trial : permit.trial with
    | true =>
      rw [newest_letThrough_of_trial _ _ _ trial] at newest
      cases newest
      exact Nat.lt_succ_self _
    | false =>
      rw [newest_letThrough_of_not _ _ _ trial] at newest
      exact (h.newest_lt n newest).trans (Nat.lt_succ_self _)
  newest_trial n p newest out := by
    cases trial : permit.trial with
    | true =>
      rw [newest_letThrough_of_trial _ _ _ trial] at newest
      cases newest
      rw [calls_letThrough_self] at out
      cases out
      exact trial
    | false =>
      rw [newest_letThrough_of_not _ _ _ trial] at newest
      rw [calls_letThrough_of_ne _ _ _ (h.newest_lt n newest).ne] at out
      exact h.newest_trial n p newest out

theorem change {t' : Traffic} {move : Move α} (h : t.Numbered) (c : Change t move t') :
    t'.Numbered := by
  cases c with
  | passed | tried | retried => exact (h.turn _ _).letThrough _ _
  | succeeded | failed | dropped => exact (h.turn _ _).leave _
  | refused | wasReset | forcedOpen => exact h.turn _ _
  | waited | idle => exact { h with }

end Numbered

theorem numbered_start (name : String) (policy : BreakerPolicy) (clock : Clock) :
    (start name policy clock).Numbered where
  calls_lt _ _ out := by simp [start] at out
  period_le _ _ out := by simp [start] at out
  newest_lt _ newest := by simp [start] at newest
  newest_trial _ _ newest := by simp [start] at newest

end Traffic

end Safeguard
