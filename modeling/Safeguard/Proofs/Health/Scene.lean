import Mathlib.Algebra.Group.Action.Defs
import Mathlib.Algebra.Order.BigOperators.Group.List
import Mathlib.Algebra.Order.Ring.Nat
import Mathlib.Data.List.Induction
import Safeguard.Health.Monitor
import Safeguard.Proofs.Health.Step
import Safeguard.Proofs.Health.Timetable

/-!
# Rounds that are not alone

While a round of health checks is under way, checks are registered and removed, and the breakers
are used by others: calls arrive and settle, permits are given back, breakers are created, reset
and forced open. A `Deed` is one such thing. A `Scene` is a round under way with all that these
deeds may change, and a `Happening` is what comes next: the round goes on by one moment, time
passes, or a deed is done. Time passes at most until the next moment of the round is due. The
checks that a round runs are those of its beginning: a scene keeps the moments that are ahead, and
the checks that are still waiting for their turn.

* `Scene.step_cases` says what a happening means to one check: nothing, the beginning of its turn,
  or one of its own moments.
* `Scene.orderly_run` says that no moment is ever late: as long as something may come of it, its
  instant has not passed.
* `Scene.isOver_run` says that a round ends, whatever else happens: after so many moments that the
  number depends on the number of checks and of attempts alone.
* `Scene.run_undisturbed` says that `Monitor.round` is the run in which nothing else happens.
-/

namespace Safeguard

/-! ## What else is done -/

/-- Something that is done while a round is under way. -/
inductive Deed
  | register (name : String) (check : Check)
  | unregister (name : String)
  /-- A breaker is created if there is none of its name. -/
  | getOrCreate (name : String) (policy : Option BreakerPolicy)
  /-- A call arrives at a breaker. -/
  | ask (name : String) (policy : Option BreakerPolicy)
  /-- A call through a breaker ends. -/
  | settle (name : String) (reply : CallReply Unit)
  /-- A call through a breaker is dropped. -/
  | abandon (name : String) (permit : Permit)
  | reset (name : String)
  | forceOpen (name : String)

namespace Deed

/-- The breaker that a deed is about. -/
def breaker? : Deed → Option String
  | register .. | unregister _ => none
  | getOrCreate name _ | ask name _ | settle name _ | abandon name _ | reset name
  | forceOpen name => some name

/-- The checks after a deed. -/
def monitor (m : Monitor) : Deed → Monitor
  | register name check => (m.register name check).1
  | unregister name => (m.unregister name).2
  | _ => m

/-- The breakers after a deed. -/
def registry (clock : Clock) (r : Registry) : Deed → Registry
  | register .. | unregister _ => r
  | getOrCreate name policy => (r.getOrCreate clock name policy).2.1
  | ask name policy => (r.ask clock name policy).2.1
  | settle name reply => (r.settle clock.now name reply).1
  | abandon name permit => r.abandon name permit
  | reset name => (r.reset name).2.1
  | forceOpen name => (r.forceOpen clock.now name).2.1

@[simp] theorem settings_monitor (m : Monitor) (d : Deed) :
    (d.monitor m).settings = m.settings := by
  cases d <;> rfl

/-- A deed leaves the breakers of all other names alone. -/
theorem get?_registry_ne (clock : Clock) (r : Registry) {d : Deed} {other : String}
    (ne : d.breaker? ≠ some other) : (d.registry clock r).get? other = r.get? other := by
  cases d with
  | register | unregister => rfl
  | getOrCreate name policy =>
    exact r.get?_getOrCreate_ne clock (fun eq => ne (congrArg some eq.symm)) policy
  | ask name policy => exact r.get?_ask_ne clock (fun eq => ne (congrArg some eq.symm)) policy
  | settle name reply =>
    exact r.get?_settle_ne clock.now (fun eq => ne (congrArg some eq.symm)) reply
  | abandon name permit => exact r.get?_abandon_ne (fun eq => ne (congrArg some eq.symm)) permit
  | reset name => exact r.get?_reset_ne fun eq => ne (congrArg some eq.symm)
  | forceOpen name => exact r.get?_forceOpen_ne clock.now fun eq => ne (congrArg some eq.symm)

/-- A breaker that exists stays. -/
theorem isSome_registry (clock : Clock) {r : Registry} (d : Deed) {name : String}
    (present : (r.get? name).isSome = true) :
    ((d.registry clock r).get? name).isSome = true := by
  cases d with
  | register | unregister => exact present
  | getOrCreate other policy => exact Registry.isSome_get?_getOrCreate present clock other policy
  | ask other policy => exact Registry.isSome_get?_ask present clock other policy
  | settle other reply => exact Registry.isSome_get?_settle present clock.now other reply
  | abandon other permit => exact Registry.isSome_get?_abandon present other permit
  | reset other => exact Registry.isSome_get?_reset present other
  | forceOpen other => exact Registry.isSome_get?_forceOpen present clock.now other

end Deed

/-! ## Scenes -/

/-- A round under way, and what else there is. -/
structure Scene where
  /-- The checks that are registered now. -/
  monitor : Monitor
  /-- The draws that shift the waits of each check. -/
  draw : String → Nat → Float
  round : Round
  /-- The moments ahead, in the order of play. -/
  pending : List (Nat × Probe × Moment)
  /-- The checks whose turn has not come. -/
  waiting : List (String × Check)

/-- What comes next. -/
inductive Happening
  /-- The round goes on. -/
  | proceed
  /-- Time passes. -/
  | wait (d : Nat)
  | deed (d : Deed)

namespace Happening

/-- Whether the round goes on. -/
def isProceed : Happening → Bool
  | proceed => true
  | _ => false

/-- The breaker that something else is done to. -/
def breaker? : Happening → Option String
  | deed d => d.breaker?
  | _ => none

end Happening

namespace Monitor

/-- In how many steps a check is over: its turn comes, its breaker is asked, there are at most two
notices for each attempt, and it settles. -/
def stepsPerCheck (m : Monitor) : Nat := 2 * m.settings.retry.attempts + 3

theorem length_moments_start (m : Monitor) (draw : Nat → Float) (now : Nat) (name : String)
    (check : Check) :
    (Probe.start (m.retry draw) now name check).moments.length + 1 ≤ m.stepsPerCheck := by
  have notices := (m.retry draw).length_notices_run check.script now
  have one : 1 ≤ m.settings.retry.attempts := Nat.le_max_right _ _
  rw [Probe.length_moments]
  simp only [Probe.start, stepsPerCheck]
  simp only [retry, Retry.ofPolicy] at notices ⊢
  omega

end Monitor

namespace Scene

/-- The instant of a scene. -/
def now (s : Scene) : Nat := s.round.clock.now

/-- How a check is retried. -/
def retry (s : Scene) (check : String) : Retry := s.monitor.retry (s.draw check)

/-- The breaker of a check. -/
def guard (s : Scene) (check : String) : Option Breaker :=
  s.round.registry.get? (checkBreaker check)

/-- The moments ahead of a check. -/
def ahead (s : Scene) (check : String) : List (Nat × Probe × Moment) :=
  s.pending.filter (isAbout check)

/-- A check that is waiting for its turn. -/
def queued (s : Scene) (check : String) : Option Check := NameMap.find check s.waiting

/-- When a check was invoked, if its breaker let it through. -/
def invoked (s : Scene) (check : String) : Option (List Nat) := s.round.invocations.get? check

/-- The result of a check, if it has one. -/
def entry (s : Scene) (check : String) : Option ServiceHealth := s.round.services.get? check

/-- What the round will tell, if it is over. -/
def health (s : Scene) : HealthStatus := s.monitor.report s.round

/-- A round begins. -/
def start (m : Monitor) (clock : Clock) (registry : Registry) (draw : String → Nat → Float) :
    Scene where
  monitor := m
  draw
  round := { clock, registry }
  pending :=
    if m.settings.concurrent then
      timetable (m.checks.entries.map fun (name, check) =>
        Probe.start (m.retry (draw name)) clock.now name check)
    else []
  waiting := if m.settings.concurrent then [] else m.checks.entries

/-- A moment is played. -/
def play (s : Scene) (m : Nat × Probe × Moment) (rest : List (Nat × Probe × Moment)) : Scene :=
  { s with round := s.round.step s.monitor.settings.breaker m, pending := rest }

/-- The turn of a check comes. -/
def beginTurn (s : Scene) (name : String) (check : Check) (rest : List (String × Check)) : Scene :=
  { s with pending := (Probe.start (s.retry name) s.now name check).moments, waiting := rest }

/-- The round goes on, if it is not over. -/
def proceed (s : Scene) : Scene :=
  match s.pending, s.waiting with
  | m :: rest, _ => s.play m rest
  | [], (name, check) :: rest => s.beginTurn name check rest
  | [], [] => s

/-- When the round goes on, if something comes of what is ahead. -/
def upcoming? (s : Scene) : Option Nat :=
  (s.pending.find? fun m => s.round.IsLive m).map Prod.fst

/-- Time passes, until the round goes on. -/
def wait (s : Scene) (d : Nat) : Scene :=
  match s.upcoming? with
  | some t => { s with round := s.round.waitUntil (min (s.now + d) t) }
  | none => s

/-- A deed is done. -/
def perform (s : Scene) (d : Deed) : Scene :=
  { s with
    monitor := d.monitor s.monitor
    round := { s.round with registry := d.registry s.round.clock s.round.registry } }

/-- The scene after a happening. -/
def step (s : Scene) : Happening → Scene
  | .proceed => s.proceed
  | .wait d => s.wait d
  | .deed d => s.perform d

/-- The scene after happenings, one after the other. -/
def run (s : Scene) (es : List Happening) : Scene := es.foldl step s

/-- The round has come to its end. -/
def IsOver (s : Scene) : Prop := s.pending = [] ∧ s.waiting = []

@[simp] theorem run_nil (s : Scene) : s.run [] = s := rfl

@[simp] theorem run_cons (s : Scene) (e : Happening) (es : List Happening) :
    s.run (e :: es) = (s.step e).run es := rfl

theorem run_append (s : Scene) (es es' : List Happening) :
    s.run (es ++ es') = (s.run es).run es' := List.foldl_append

@[simp] theorem run_concat (s : Scene) (es : List Happening) (e : Happening) :
    s.run (es ++ [e]) = (s.run es).step e := s.run_append es [e]

variable {s : Scene}

/-- The round goes on with the next moment or the next check, or it is over. -/
theorem proceed_cases (s : Scene) :
    (∃ m rest, s.pending = m :: rest ∧ s.proceed = s.play m rest) ∨
      (∃ name check rest, s.pending = [] ∧ s.waiting = (name, check) :: rest ∧
        s.proceed = s.beginTurn name check rest) ∨
      s.IsOver ∧ s.proceed = s := by
  cases pending : s.pending with
  | cons m rest => exact .inl ⟨m, rest, rfl, by simp only [proceed, pending]⟩
  | nil =>
    cases waiting : s.waiting with
    | cons first rest =>
      obtain ⟨name, check⟩ := first
      exact .inr (.inl ⟨name, check, rest, rfl, rfl, by simp only [proceed, pending, waiting]⟩)
    | nil => exact .inr (.inr ⟨⟨pending, waiting⟩, by simp only [proceed, pending, waiting]⟩)

/-! ## What stays -/

@[simp] theorem settings_step (s : Scene) (e : Happening) :
    (s.step e).monitor.settings = s.monitor.settings := by
  cases e with
  | proceed =>
    simp only [step, proceed]
    split <;> rfl
  | wait d =>
    simp only [step, wait]
    split <;> rfl
  | deed d => exact d.settings_monitor s.monitor

@[simp] theorem draw_step (s : Scene) (e : Happening) : (s.step e).draw = s.draw := by
  cases e with
  | proceed =>
    simp only [step, proceed]
    split <;> rfl
  | wait d =>
    simp only [step, wait]
    split <;> rfl
  | deed d => rfl

@[simp] theorem settings_run (s : Scene) (es : List Happening) :
    (s.run es).monitor.settings = s.monitor.settings := by
  induction es using List.reverseRecOn with
  | nil => rfl
  | append_singleton es e ih => rw [run_concat, settings_step, ih]

@[simp] theorem draw_run (s : Scene) (es : List Happening) : (s.run es).draw = s.draw := by
  induction es using List.reverseRecOn with
  | nil => rfl
  | append_singleton es e ih => rw [run_concat, draw_step, ih]

@[simp] theorem retry_run (s : Scene) (es : List Happening) (check : String) :
    (s.run es).retry check = s.retry check := by
  simp only [retry, Monitor.retry, settings_run, draw_run]

/-- Time does not run backwards. -/
theorem now_le_step (s : Scene) (e : Happening) : s.now ≤ (s.step e).now := by
  cases e with
  | wait d =>
    simp only [step, wait]
    split
    · exact Nat.le_max_left _ _
    · exact Nat.le_refl _
  | deed d => exact Nat.le_refl _
  | proceed =>
    change s.now ≤ s.proceed.now
    obtain ⟨m, rest, -, eq⟩ | ⟨name, check, rest, -, -, eq⟩ | ⟨-, eq⟩ := s.proceed_cases
    · rw [eq]
      exact (s.round.played_step _ m).now_le
    · rw [eq]
      exact Nat.le_refl _
    · rw [eq]

/-! ## What a happening means to one check -/

/-- A happening does not concern a check, except perhaps that something is done to its breaker. -/
structure Aside (check : String) (s : Scene) (e : Happening) (s' : Scene) : Prop where
  ahead : s'.ahead check = s.ahead check
  queued : s'.queued check = s.queued check
  invoked : s'.invoked check = s.invoked check
  entry : s'.entry check = s.entry check
  present : (s.guard check).isSome = true → (s'.guard check).isSome = true
  spared : e.breaker? ≠ some (checkBreaker check) → s'.guard check = s.guard check

/-- What a happening means to a check. -/
inductive Turn (check : String) (s : Scene) : Happening → Scene → Prop
  | aside {e : Happening} {s' : Scene} (aside : Aside check s e s') : Turn check s e s'
  /-- The turn of the check comes. -/
  | begun {operation : Check} {rest : List (String × Check)} (idle : s.pending = [])
      (next : s.waiting = (check, operation) :: rest) :
      Turn check s .proceed (s.beginTurn check operation rest)
  /-- A moment of the check is played. -/
  | own {m : Nat × Probe × Moment} {rest : List (Nat × Probe × Moment)}
      (next : s.pending = m :: rest) (own : m.2.1.name = check) :
      Turn check s .proceed (s.play m rest)

theorem aside_of_same {check : String} {e : Happening} {s' : Scene}
    (pending : s'.pending = s.pending) (waiting : s'.waiting = s.waiting)
    (invocations : s'.round.invocations = s.round.invocations)
    (services : s'.round.services = s.round.services)
    (registry : s'.round.registry = s.round.registry) : Aside check s e s' where
  ahead := by rw [ahead, pending, ahead]
  queued := by rw [queued, waiting, queued]
  invoked := by rw [invoked, invocations, invoked]
  entry := by rw [entry, services, entry]
  present := by rw [guard, guard, registry]; exact id
  spared := by rw [guard, guard, registry]; exact fun _ => rfl

theorem aside_wait (s : Scene) (check : String) (d : Nat) :
    Aside check s (.wait d) (s.wait d) := by
  unfold wait
  split <;> exact aside_of_same rfl rfl rfl rfl rfl

theorem aside_perform (s : Scene) (check : String) (d : Deed) :
    Aside check s (.deed d) (s.perform d) where
  ahead := rfl
  queued := rfl
  invoked := rfl
  entry := rfl
  present present := d.isSome_registry s.round.clock present
  spared spared := Deed.get?_registry_ne s.round.clock s.round.registry spared

theorem aside_play {check : String} {m : Nat × Probe × Moment}
    {rest : List (Nat × Probe × Moment)} (next : s.pending = m :: rest)
    (other : m.2.1.name ≠ check) : Aside check s .proceed (s.play m rest) where
  ahead := by
    have skipped : ¬ isAbout check m = true := by simpa [isAbout] using other
    rw [ahead, ahead, next, List.filter_cons_of_neg skipped]
    rfl
  queued := rfl
  invoked := (s.round.played_step _ m).invocations_ne other.symm
  entry := (s.round.played_step _ m).services_ne other.symm
  present := (s.round.played_step _ m).isSome_breaker
  spared _ := (s.round.played_step _ m).breaker_ne other.symm

theorem aside_beginTurn {check name : String} {operation : Check}
    {rest : List (String × Check)} (idle : s.pending = [])
    (next : s.waiting = (name, operation) :: rest) (other : name ≠ check) :
    Aside check s .proceed (s.beginTurn name operation rest) where
  ahead := by
    rw [ahead, ahead, idle, beginTurn, Probe.filter_moments, if_neg]
    · rfl
    · exact other
  queued := by
    rw [queued, queued, next, NameMap.find, if_neg other]
    rfl
  invoked := rfl
  entry := rfl
  present := id
  spared _ := rfl

/-- To a check, a happening means one of the things that `Turn` lists. -/
theorem step_cases (s : Scene) (check : String) (e : Happening) :
    Turn check s e (s.step e) := by
  cases e with
  | wait d => exact .aside (s.aside_wait check d)
  | deed d => exact .aside (s.aside_perform check d)
  | proceed =>
    change Turn check s .proceed s.proceed
    obtain ⟨m, rest, pending, eq⟩ | ⟨name, operation, rest, pending, waiting, eq⟩ | ⟨-, eq⟩ :=
      s.proceed_cases
    · rw [eq]
      by_cases own : m.2.1.name = check
      · exact .own pending own
      · exact .aside (aside_play pending own)
    · rw [eq]
      by_cases own : name = check
      · subst own
        exact .begun pending waiting
      · exact .aside (aside_beginTurn pending waiting own)
    · rw [eq]
      exact .aside (aside_of_same rfl rfl rfl rfl rfl)

/-! ## No moment is late -/

/-- The moments ahead are in order, and those of which something may come have not passed. -/
structure Orderly (s : Scene) : Prop where
  sorted : s.pending.Pairwise fun a b => a.1 ≤ b.1
  onTime : ∀ m ∈ s.pending, s.round.IsLive m → s.now ≤ m.1
  ascending : Ascending s.waiting

theorem Orderly.beginTurn (h : s.Orderly) {name : String} {check : Check}
    {rest : List (String × Check)} (next : s.waiting = (name, check) :: rest) :
    (s.beginTurn name check rest).Orderly where
  sorted := by
    have inOrder := Probe.inOrder_start (s.retry name) s.now name check
    exact (Probe.sorted_moments inOrder).imp le_of_mayPrecede
  onTime _ mem _ := Probe.begun_le_of_mem_moments (Probe.inOrder_start _ _ _ _) mem
  ascending := by
    have ascending := h.ascending
    rw [next] at ascending
    exact (List.pairwise_cons.1 ascending).2

theorem Orderly.play (h : s.Orderly) {m : Nat × Probe × Moment}
    {rest : List (Nat × Probe × Moment)} (next : s.pending = m :: rest) :
    (s.play m rest).Orderly where
  sorted := by
    have sorted := h.sorted
    rw [next] at sorted
    exact (List.pairwise_cons.1 sorted).2
  onTime m' mem live := by
    have played := s.round.played_step s.monitor.settings.breaker m
    change (s.round.step s.monitor.settings.breaker m).clock.now ≤ m'.1
    by_cases played_live : s.round.IsLive m
    · have sorted := h.sorted
      rw [next] at sorted
      have onTime : s.now ≤ m.1 := h.onTime m (next ▸ List.mem_cons_self) played_live
      rw [played.clock played_live]
      exact Nat.max_le.2
        ⟨Nat.le_trans onTime ((List.pairwise_cons.1 sorted).1 m' mem),
          (List.pairwise_cons.1 sorted).1 m' mem⟩
    · have same := played.eq_of_not_live played_live
      rw [same]
      refine h.onTime m' (next ▸ List.mem_cons_of_mem m mem) ?_
      change (s.round.step s.monitor.settings.breaker m).IsLive m' at live
      rwa [same] at live
  ascending := h.ascending

/-- Time never passes beyond what is ahead. -/
theorem le_of_upcoming (h : s.Orderly) {t : Nat} (upcoming : s.upcoming? = some t)
    {m : Nat × Probe × Moment} (mem : m ∈ s.pending) (live : s.round.IsLive m) : t ≤ m.1 := by
  obtain ⟨first, found, rfl⟩ := Option.map_eq_some_iff.1 upcoming
  obtain ⟨-, before, after, split, dead⟩ := List.find?_eq_some_iff_append.1 found
  rw [split] at mem
  rcases List.mem_append.1 mem with mem | mem
  · exact absurd live (by simpa using dead m mem)
  · have sorted := h.sorted
    rw [split] at sorted
    rcases List.mem_cons.1 mem with rfl | mem
    · exact Nat.le_refl _
    · exact (List.pairwise_cons.1 (List.pairwise_append.1 sorted).2.1).1 m mem

theorem Orderly.wait (h : s.Orderly) (d : Nat) : (s.wait d).Orderly := by
  cases upcoming : s.upcoming? with
  | none =>
    rw [Scene.wait, upcoming]
    exact h
  | some t =>
    rw [Scene.wait, upcoming]
    refine ⟨h.sorted, fun m mem live => ?_, h.ascending⟩
    have onTime : s.now ≤ m.1 := h.onTime m mem live
    have t_le := le_of_upcoming h upcoming mem live
    change max s.now (min (s.now + d) t) ≤ m.1
    omega

/-- A happening leaves no moment late. -/
theorem Orderly.step (h : s.Orderly) (e : Happening) : (s.step e).Orderly := by
  cases e with
  | wait d => exact h.wait d
  | deed d => exact ⟨h.sorted, h.onTime, h.ascending⟩
  | proceed =>
    change s.proceed.Orderly
    obtain ⟨m, rest, pending, eq⟩ | ⟨name, operation, rest, -, waiting, eq⟩ | ⟨-, eq⟩ :=
      s.proceed_cases
    · rw [eq]
      exact h.play pending
    · rw [eq]
      exact h.beginTurn waiting
    · rw [eq]
      exact h

theorem orderly_start (m : Monitor) (clock : Clock) (registry : Registry)
    (draw : String → Nat → Float) : (start m clock registry draw).Orderly := by
  cases concurrent : m.settings.concurrent with
  | false =>
    refine ⟨?_, ?_, ?_⟩ <;> simp only [start, concurrent, Bool.false_eq_true, if_false]
    · exact List.Pairwise.nil
    · exact fun m mem => absurd mem (List.not_mem_nil)
    · exact m.checks.ascending
  | true =>
    refine ⟨?_, ?_, ?_⟩ <;> simp only [start, concurrent, if_true]
    · exact sorted_timetable _
    · intro moment mem _
      obtain ⟨p, probe, mem⟩ := mem_timetable_iff.1 mem
      obtain ⟨⟨name, check⟩, -, rfl⟩ := List.mem_map.1 probe
      exact Probe.begun_le_of_mem_moments (Probe.inOrder_start _ _ _ _) mem
    · exact List.Pairwise.nil

/-- No moment of a round is ever late. -/
theorem orderly_run (m : Monitor) (clock : Clock) (registry : Registry)
    (draw : String → Nat → Float) (es : List Happening) :
    ((start m clock registry draw).run es).Orderly := by
  induction es using List.reverseRecOn with
  | nil => exact orderly_start m clock registry draw
  | append_singleton es e ih =>
    rw [run_concat]
    exact ih.step e

/-! ## Every round ends -/

/-- How many steps of the round are ahead at most. -/
def remaining (s : Scene) : Nat :=
  s.pending.length + s.monitor.stepsPerCheck * s.waiting.length

theorem stepsPerCheck_step (s : Scene) (e : Happening) :
    (s.step e).monitor.stepsPerCheck = s.monitor.stepsPerCheck := by
  simp only [Monitor.stepsPerCheck, settings_step]

theorem isOver_iff (s : Scene) : s.IsOver ↔ s.remaining = 0 := by
  have steps : s.monitor.stepsPerCheck ≠ 0 := Nat.succ_ne_zero _
  simp only [IsOver, remaining, Nat.add_eq_zero_iff, List.length_eq_zero_iff, Nat.mul_eq_zero,
    steps, false_or]

theorem remaining_wait (s : Scene) (d : Nat) : (s.wait d).remaining = s.remaining := by
  unfold wait
  split <;> rfl

theorem remaining_perform (s : Scene) (d : Deed) : (s.perform d).remaining = s.remaining := by
  have same := s.stepsPerCheck_step (.deed d)
  simp only [remaining]
  rw [show (s.perform d).monitor.stepsPerCheck = _ from same]
  rfl

/-- A round that goes on has one step less ahead. -/
theorem remaining_proceed (s : Scene) : s.proceed.remaining ≤ s.remaining - 1 := by
  obtain ⟨m, rest, pending, eq⟩ | ⟨name, check, rest, pending, waiting, eq⟩ | ⟨isOver, eq⟩ :=
    s.proceed_cases
  · rw [eq]
    simp only [remaining, play, pending, List.length_cons]
    omega
  · have moments := s.monitor.length_moments_start (s.draw name) s.now name check
    rw [eq]
    simp only [remaining, beginTurn, pending, waiting, List.length_cons, List.length_nil,
      Nat.mul_add, retry]
    omega
  · rw [eq, (s.isOver_iff).1 isOver]

theorem remaining_run (s : Scene) (es : List Happening) :
    (s.run es).remaining ≤ s.remaining - es.countP Happening.isProceed := by
  induction es generalizing s with
  | nil => exact Nat.le_refl _
  | cons e es ih =>
    rw [run_cons]
    refine Nat.le_trans (ih _) ?_
    cases e with
    | wait d =>
      change (s.wait d).remaining - _ ≤ _
      rw [remaining_wait]
      exact Nat.le_refl _
    | deed d =>
      change (s.perform d).remaining - _ ≤ _
      rw [remaining_perform]
      exact Nat.le_refl _
    | proceed =>
      have less := s.remaining_proceed
      change s.proceed.remaining - _ ≤ _
      rw [List.countP_cons_of_pos rfl]
      omega

theorem remaining_start (m : Monitor) (clock : Clock) (registry : Registry)
    (draw : String → Nat → Float) :
    (start m clock registry draw).remaining ≤ m.stepsPerCheck * m.checks.size := by
  cases concurrent : m.settings.concurrent with
  | false => simp [remaining, start, concurrent, NameMap.size]
  | true =>
    have each : ∀ n ∈ m.checks.entries.map fun e =>
        (Probe.start (m.retry (draw e.1)) clock.now e.1 e.2).moments.length,
        n ≤ m.stepsPerCheck := by
      intro n mem
      obtain ⟨⟨name, check⟩, -, rfl⟩ := List.mem_map.1 mem
      exact Nat.le_of_succ_le (m.length_moments_start (draw name) clock.now name check)
    have all := List.sum_le_card_nsmul _ _ each
    rw [List.length_map, smul_eq_mul, Nat.mul_comm] at all
    simp only [remaining, start, concurrent, if_true, length_timetable, List.length_nil,
      Nat.mul_zero, Nat.add_zero, List.map_map, NameMap.size]
    exact all

/-- A round is over after so many steps, whatever else happens. -/
theorem isOver_run (m : Monitor) (clock : Clock) (registry : Registry)
    (draw : String → Nat → Float) {es : List Happening}
    (many : m.stepsPerCheck * m.checks.size ≤ es.countP Happening.isProceed) :
    ((start m clock registry draw).run es).IsOver := by
  have first := remaining_start m clock registry draw
  have last := (start m clock registry draw).remaining_run es
  rw [isOver_iff]
  omega

/-! ## Nothing else happens -/

/-- The round goes on `n` times, and nothing else happens. -/
abbrev alone (n : Nat) : List Happening := List.replicate n .proceed

theorem run_alone_pending {s : Scene} {moments : List (Nat × Probe × Moment)}
    (pending : s.pending = moments) :
    s.run (alone moments.length) =
      { s with round := s.round.play s.monitor.settings.breaker moments, pending := [] } := by
  induction moments generalizing s with
  | nil =>
    cases s
    cases pending
    rfl
  | cons m rest ih =>
    have eq : s.step .proceed = s.play m rest := by simp only [step, proceed, pending]
    rw [List.length_cons, alone, List.replicate_succ, run_cons, eq]
    exact ih rfl

theorem run_alone_waiting {s : Scene} {checks : List (String × Check)} (idle : s.pending = [])
    (waiting : s.waiting = checks) {draw : Nat → Float} (same : ∀ name, s.draw name = draw) :
    ∃ n, s.run (alone n) =
      { s with
        round := s.round.runInTurn s.monitor.settings.breaker (s.monitor.retry draw) checks
        waiting := [] } := by
  induction checks generalizing s with
  | nil =>
    refine ⟨0, ?_⟩
    cases s
    cases waiting
    rfl
  | cons first rest ih =>
    obtain ⟨name, check⟩ := first
    have eq : s.step .proceed = s.beginTurn name check rest := by
      simp only [step, proceed, idle, waiting]
    have turn := run_alone_pending (s := s.beginTurn name check rest) rfl
    obtain ⟨n, others⟩ :=
      ih (s := (s.beginTurn name check rest).run (alone _)) (by rw [turn]) (by rw [turn]; rfl)
        (by rw [turn]; exact same)
    refine ⟨n + (s.beginTurn name check rest).pending.length + 1, ?_⟩
    rw [alone, Nat.add_comm n, List.replicate_succ, run_cons, eq, List.replicate_add, run_append,
      others, turn]
    simp only [beginTurn, retry, same, Round.runInTurn, List.foldl_cons, now]
    rw [← idle]

/-- `Monitor.round` is the run in which nothing else happens. -/
theorem run_undisturbed (m : Monitor) (clock : Clock) (registry : Registry)
    (draw : Nat → Float) :
    ∃ n, let s := (start m clock registry fun _ => draw).run (alone n)
      s.IsOver ∧ s.monitor = m ∧ s.round = m.round clock registry draw := by
  cases concurrent : m.settings.concurrent with
  | true =>
    have run := run_alone_pending (s := start m clock registry fun _ => draw) rfl
    refine ⟨(start m clock registry fun _ => draw).pending.length, ?_⟩
    rw [run]
    refine ⟨⟨rfl, by simp [start, concurrent]⟩, rfl, ?_⟩
    simp only [start, concurrent, if_true, Monitor.round, Round.runOverlapping]
    rfl
  | false =>
    have idle : (start m clock registry fun _ => draw).pending = [] := by
      simp [start, concurrent]
    have waiting : (start m clock registry fun _ => draw).waiting = m.checks.entries := by
      simp [start, concurrent]
    obtain ⟨n, run⟩ := run_alone_waiting idle waiting fun _ => rfl
    refine ⟨n, ?_⟩
    rw [run]
    refine ⟨⟨idle, rfl⟩, rfl, ?_⟩
    simp only [start, concurrent, Monitor.round, Bool.false_eq_true, if_false]

end Scene

end Safeguard
