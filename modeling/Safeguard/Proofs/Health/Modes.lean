import Safeguard.Proofs.Health.Report
import Safeguard.Proofs.Health.Steady

/-!
# Checks that overlap and checks that follow one another

A monitor runs its checks at the same time or one after the other. The two ways come to the same
(`Scene.modes_agree`), as long as every check finds its breaker closed or absent, nobody else does
anything to these breakers, the waits do not depend on chance, and each check hands over to the next
at a whole millisecond. Then each check comes to what it would come to if it were alone
(`Scene.stands_run`), so it does not matter what the others do in the meantime.

A check that is over in between lets the next one begin in between. The waits of that one are
rounded up differently, which may cost it an attempt (`Scene.modes_disagree_of_fraction`).
-/

namespace Safeguard

/-! ## What is compared -/

/-- The monitor, with checks that overlap or that follow one another. -/
def Monitor.inMode (m : Monitor) (concurrent : Bool) : Monitor :=
  { m with settings := { m.settings with concurrent } }

/-- Two breakers that are closed and have counted the same on the way to the same threshold, or
that are both missing. -/
inductive Alike : Option Breaker → Option Breaker → Prop
  | absent : Alike none none
  | closed {b b' : Breaker} (closed : b.circuit.state = .closed)
      (closed' : b'.circuit.state = .closed)
      (threshold : b.policy.failureThreshold = b'.policy.failureThreshold)
      (failures : b.circuit.failures = b'.circuit.failures)
      (successes : b.circuit.successes = b'.circuit.successes) : Alike (some b) (some b')

/-- Two rounds of the same checks report the same, except for when it was, have invoked each check
equally often, and leave the breakers of the checks with the same state and counters. -/
structure Agree (checks : List String) (u u' : Upshot) : Prop where
  names : u.health.services.names = u'.health.services.names
  status : u.health.status = u'.health.status
  results : ∀ check ∈ checks, ∃ h h',
    u.health.services.get? check = some h ∧ u'.health.services.get? check = some h' ∧
      h.status = h'.status ∧ h.error = h'.error ∧ h.responseTime = h'.responseTime ∧
      h.circuitState = h'.circuitState
  invocations : ∀ check ∈ checks, ∃ invocations invocations',
    u.invocations.get? check = some invocations ∧
      u'.invocations.get? check = some invocations' ∧ invocations.length = invocations'.length
  breakers : ∀ check ∈ checks, ∃ b b',
    u.registry.get? (checkBreaker check) = some b ∧
      u'.registry.get? (checkBreaker check) = some b' ∧
      b.circuit.state = b'.circuit.state ∧ b.circuit.failures = b'.circuit.failures ∧
      b.circuit.successes = b'.circuit.successes

/-! ## Overall status -/

/-- The values of a map are those of its names, in order. -/
theorem NameMap.map_values {α β : Type} (f : α → β) (m : NameMap α) :
    (m.entries.map fun e => f e.2) = m.names.filterMap fun name => (m.get? name).map f := by
  rw [names, List.filterMap_map, ← List.filterMap_eq_map]
  refine List.filterMap_congr fun e mem => ?_
  rw [Function.comp_apply, Function.comp_apply, get?, find_of_mem m.ascending mem]
  rfl

/-- The overall status is made of the statuses alone. -/
theorem overallStatus_congr {l l' : List ServiceHealth}
    (same : l.map ServiceHealth.status = l'.map ServiceHealth.status) :
    overallStatus l = overallStatus l' := by
  have count : ∀ status : ServiceStatus,
      (l.countP fun h => h.status == status) = l'.countP fun h => h.status == status := by
    intro status
    have mapped := congrArg (List.countP (· == status)) same
    rwa [List.countP_map, List.countP_map] at mapped
  have length : l.length = l'.length := by
    have mapped := congrArg List.length same
    rwa [List.length_map, List.length_map] at mapped
  simp only [overallStatus, count, length]

theorem overallStatus_values {a b : NameMap ServiceHealth} (names : a.names = b.names)
    (same : ∀ check ∈ a.names, ∃ h h', a.get? check = some h ∧ b.get? check = some h' ∧
      h.status = h'.status) :
    overallStatus (a.entries.map Prod.snd) = overallStatus (b.entries.map Prod.snd) := by
  refine overallStatus_congr ?_
  rw [List.map_map, List.map_map]
  have left := NameMap.map_values ServiceHealth.status a
  have right := NameMap.map_values ServiceHealth.status b
  refine left.trans (Eq.trans ?_ right.symm)
  rw [← names]
  refine List.filterMap_congr fun check mem => ?_
  obtain ⟨h, h', found, found', status⟩ := same check mem
  rw [found, found', Option.map_some, Option.map_some, status]

namespace Scene

/-! ## Agreement -/

/-- What a result tells is all there is to it, but for the state of the breaker and the time. -/
theorem tells_unique {h h' : ServiceHealth} {reply : Reply Finding} {took : Nat}
    (tells : h.Tells reply took) (tells' : h'.Tells reply took) :
    h.status = h'.status ∧ h.error = h'.error ∧ h.responseTime = h'.responseTime := by
  cases reply with
  | ok finding =>
    obtain ⟨status, error, time⟩ := tells
    obtain ⟨status', error', time'⟩ := tells'
    exact ⟨status.trans status'.symm, error.trans error'.symm, time.trans time'.symm⟩
  | error message =>
    obtain ⟨status, error, time⟩ := tells
    obtain ⟨status', error', time'⟩ := tells'
    exact ⟨status.trans status'.symm, error.trans error'.symm, time.trans time'.symm⟩

/-- Breakers that are alike are found closed with the same numbers. -/
theorem findsClosed_of_alike {guard guard' : Option Breaker} (alike : Alike guard guard')
    (policy : BreakerPolicy) : ∃ threshold failures successes,
      FindsClosed policy guard threshold failures successes ∧
        FindsClosed policy guard' threshold failures successes := by
  cases alike with
  | absent => exact ⟨_, _, _, .absent, .absent⟩
  | closed closed closed' threshold failures successes =>
    refine ⟨_, _, _, .present closed, ?_⟩
    rw [threshold, failures, successes]
    exact .present closed'

theorem spares_alone (check : String) (n : Nat) : Spares check (alone n) := by
  intro e mem
  rw [List.eq_of_mem_replicate mem]
  exact nofun

section Agreement

variable (m : Monitor) (clock clock' : Clock) (registry registry' : Registry)

/-- Two rounds of the same checks agree, in whatever mode each of them is. -/
theorem agree_of_alike (steady : m.settings.retry.jitter = false) (hands_over : m.HandsOver)
    (whole : 1000000 ∣ clock.now) (whole' : 1000000 ∣ clock'.now)
    (alike : ∀ check ∈ m.names,
      Alike (registry.get? (checkBreaker check)) (registry'.get? (checkBreaker check)))
    (mode mode' : Bool) (draw draw' : String → Nat → Float) {es es' : List Happening}
    (spares : ∀ check ∈ m.names, Spares check es ∧ Spares check es')
    (isOver : ((start (m.inMode mode) clock registry draw).run es).IsOver)
    (isOver' : ((start (m.inMode mode') clock' registry' draw').run es').IsOver) :
    Agree m.names ((start (m.inMode mode) clock registry draw).run es).upshot
      ((start (m.inMode mode') clock' registry' draw').run es').upshot := by
  have stands : ∀ check ∈ m.names, ∃ run numbers,
      Stands ((start (m.inMode mode) clock registry draw).run es) check run numbers ∧
        Stands ((start (m.inMode mode') clock' registry' draw').run es') check run numbers := by
    intro check mem
    obtain ⟨operation, registered⟩ :=
      Option.isSome_iff_exists.1 ((m.checks.mem_names_iff check).1 mem)
    obtain ⟨threshold, failures, successes, finds, finds'⟩ :=
      findsClosed_of_alike (alike check mem) m.settings.breaker
    exact ⟨m.plainRun operation, _,
      stands_run (m.inMode mode) clock registry draw steady whole (fun _ => hands_over) registered
        finds (spares check mem).1 isOver,
      stands_run (m.inMode mode') clock' registry' draw' steady whole' (fun _ => hands_over)
        registered finds' (spares check mem).2 isOver'⟩
  have results : ∀ check ∈ m.names, ∃ h h',
      ((start (m.inMode mode) clock registry draw).run es).round.services.get? check = some h ∧
        ((start (m.inMode mode') clock' registry' draw').run es').round.services.get? check =
          some h' ∧
        h.status = h'.status ∧ h.error = h'.error ∧ h.responseTime = h'.responseTime ∧
        h.circuitState = h'.circuitState := by
    intro check mem
    obtain ⟨run, numbers, one, other⟩ := stands check mem
    obtain ⟨h, entry, tells, state⟩ := one.result
    obtain ⟨h', entry', tells', state'⟩ := other.result
    obtain ⟨status, error, time⟩ := tells_unique tells tells'
    exact ⟨h, h', entry, entry', status, error, time, state.trans state'.symm⟩
  have names := names_services (m.inMode mode) clock registry draw isOver
  have names' := names_services (m.inMode mode') clock' registry' draw' isOver'
  refine ⟨names.trans names'.symm, ?_, results, fun check mem => ?_, fun check mem => ?_⟩
  · refine overallStatus_values (names.trans names'.symm) fun check mem => ?_
    obtain ⟨h, h', found, found', status, -⟩ := results check (names ▸ mem)
    exact ⟨h, h', found, found', status⟩
  · obtain ⟨run, numbers, one, other⟩ := stands check mem
    obtain ⟨invocations, invoked, length⟩ := one.invoked
    obtain ⟨invocations', invoked', length'⟩ := other.invoked
    exact ⟨invocations, invocations', invoked, invoked', length.trans length'.symm⟩
  · obtain ⟨run, numbers, one, other⟩ := stands check mem
    obtain ⟨b, guard, same⟩ := one.breaker
    obtain ⟨b', guard', same'⟩ := other.breaker
    have numbers := same.trans same'.symm
    simp only [Circuit.numbers, Prod.mk.injEq] at numbers
    exact ⟨b, b', guard, guard', numbers⟩

/-- **The two modes agree.** Checks that overlap come to the same as checks that follow one another
and hand over at whole milliseconds, and neither touches the breakers of checks that it does not
run. -/
theorem modes_agree (steady : m.settings.retry.jitter = false) (hands_over : m.HandsOver)
    (whole : 1000000 ∣ clock.now) (whole' : 1000000 ∣ clock'.now)
    (alike : ∀ check ∈ m.names,
      Alike (registry.get? (checkBreaker check)) (registry'.get? (checkBreaker check))) :
    (∀ draw draw' es es', (∀ check ∈ m.names, Spares check es ∧ Spares check es') →
        ((start (m.inMode true) clock registry draw).run es).IsOver →
        ((start (m.inMode false) clock' registry' draw').run es').IsOver →
        Agree m.names ((start (m.inMode true) clock registry draw).run es).upshot
          ((start (m.inMode false) clock' registry' draw').run es').upshot) ∧
      (∀ draw draw',
        Agree m.names ((m.inMode true).examine clock registry draw).upshot
          ((m.inMode false).examine clock' registry' draw').upshot) ∧
      ∀ mode draw es check, check ∉ m.names → Spares check es →
        ((start (m.inMode mode) clock registry draw).run es).guard check =
          registry.get? (checkBreaker check) := by
  refine ⟨fun draw draw' es es' spares isOver isOver' => ?_, ?_, ?_⟩
  · exact agree_of_alike m clock clock' registry registry' steady hands_over whole whole' alike true
      false draw draw' spares isOver isOver'
  · intro draw draw'
    obtain ⟨n, isOver, upshot⟩ := upshot_examine (m.inMode true) clock registry draw
    obtain ⟨n', isOver', upshot'⟩ := upshot_examine (m.inMode false) clock' registry' draw'
    rw [upshot, upshot']
    exact agree_of_alike m clock clock' registry registry' steady hands_over whole whole' alike true
      false _ _ (fun check _ => ⟨spares_alone check n, spares_alone check n'⟩) isOver isOver'
  · intro mode draw es check unnamed spares
    have absent : (m.inMode mode).checks.get? check = none := NameMap.find_eq_none_iff.2 unnamed
    exact guard_run_of_absent (m.inMode mode) clock registry draw absent spares

/-- A check that fails at first, and one that finds its breaker with a failure and takes less than a
millisecond: they agree although another breaker is forced open in one of the rounds. -/
theorem modes_agree_of_two_checks :
    let refused : Outcome Finding := { delay := 2000000, reply := .error "ECONNREFUSED" }
    let cache : Check := { script := .ofList { reply := .ok .up } [refused, { reply := .ok .up }] }
    let db : Check := { script := fun _ => { delay := 700, reply := .ok (.degraded "lagging") } }
    let m : Monitor :=
      { settings := { retry := { RetryPolicy.forHealthChecks with jitter := false } }
        checks := (NameMap.empty.insert "cache" cache).insert "db" db }
    let failed : Circuit := { failures := 1, lastFailure := some 0 }
    let registry : Registry := Registry.put {} "health-db"
      { name := "health-db", policy := .forHealthChecks, anchor := ⟨0, 0⟩, circuit := failed }
    let registry' : Registry := Registry.put {} "health-db"
      { name := "health-db", policy := .forHealthChecks, anchor := ⟨0, 5⟩
        circuit := { failed with lastFailure := some 9 } }
    let es := .deed (.forceOpen "payments") :: alone 14
    let draw : String → Nat → Float := fun _ _ => 0
    (m.settings.retry.jitter = false ∧ m.HandsOver ∧ 1000000 ∣ 0 ∧ 1000000 ∣ 3000000 ∧
        ∀ check ∈ m.names,
          Alike (registry.get? (checkBreaker check)) (registry'.get? (checkBreaker check)) ∧
            Spares check es) ∧
      Agree ["cache", "db"] ((start (m.inMode true) { wallStart := 0 } registry draw).run es).upshot
        ((start (m.inMode false) { wallStart := 0, now := 3000000 } registry' draw).run
          (alone 14)).upshot := by
  intro refused cache db m failed registry registry' es draw
  have names : m.names = ["cache", "db"] := by decide +kernel
  have hands_over : m.HandsOver := by
    refine Monitor.handsOver_of_whole fun e mem n => ?_
    have first : e = ("cache", cache) := List.mem_singleton.1 mem
    rw [first]
    rcases n with _ | _ | n
    · exact ⟨2, rfl⟩
    · exact Nat.dvd_zero _
    · exact Nat.dvd_zero _
  have alike : ∀ check ∈ m.names,
      Alike (registry.get? (checkBreaker check)) (registry'.get? (checkBreaker check)) ∧
        Spares check es := by
    have spares : ∀ check, checkBreaker check ≠ "payments" → Spares check es := by
      intro check ne e mem
      rcases List.mem_cons.1 mem with rfl | mem
      · exact fun eq => ne (Option.some.inj eq).symm
      · exact spares_alone check 14 e mem
    intro check mem
    rw [names] at mem
    rcases List.mem_cons.1 mem with rfl | mem
    · exact ⟨.absent, spares "cache" (by decide)⟩
    · rw [List.mem_singleton.1 mem]
      exact ⟨.closed rfl rfl rfl rfl rfl, spares "db" (by decide)⟩
  have isOver : ∀ mode clock registry es, 14 ≤ es.countP Happening.isProceed →
      ((start (m.inMode mode) clock registry draw).run es).IsOver := by
    intro mode clock registry es many
    have steps : (m.inMode mode).stepsPerCheck * (m.inMode mode).checks.size = 14 := by
      cases mode <;> decide +kernel
    exact isOver_run _ clock registry draw (steps ▸ many)
  refine ⟨⟨rfl, hands_over, by decide, by decide, alike⟩, ?_⟩
  have agree := (modes_agree m { wallStart := 0 } { wallStart := 0, now := 3000000 } registry
    registry' rfl hands_over (by decide) (by decide) fun check mem => (alike check mem).1).1 draw
    draw es (alone 14) (fun check mem => ⟨(alike check mem).2, spares_alone check 14⟩)
    (isOver _ _ _ _ (by decide)) (isOver _ _ _ _ (by decide))
  rw [names] at agree
  exact agree

/-- The first check takes less than a millisecond. If the second one follows it, its first wait of
ten milliseconds is rounded up and ends eleven milliseconds into the round, and the next one would
overrun the budget of thirty: it is down after two invocations. If the checks overlap, the third
invocation finds it up. -/
theorem modes_disagree_of_fraction :
    let db : Check := { script := fun _ => { delay := 400000, reply := .ok .up } }
    let refused : Outcome Finding := { reply := .error "ECONNREFUSED" }
    let queue : Check := { script := .ofList refused [refused, refused, { reply := .ok .up }] }
    let retry : RetryPolicy :=
      { baseDelay := ofMillis 10, jitter := false, maxElapsed := some (ofMillis 30) }
    let m : Monitor :=
      { settings := { retry }, checks := (NameMap.empty.insert "db" db).insert "queue" queue }
    let upshot (concurrent : Bool) :=
      ((m.inMode concurrent).examine { wallStart := 0 } {} fun _ => 0).upshot
    let found (concurrent : Bool) :=
      ((upshot concurrent).health.services.get? "queue").map ServiceHealth.status
    let invoked (concurrent : Bool) :=
      ((upshot concurrent).invocations.get? "queue").map List.length
    m.settings.retry.jitter = false ∧ 1000000 ∣ 0 ∧
      (∀ check ∈ m.names, Alike (Registry.get? {} (checkBreaker check))
        (Registry.get? {} (checkBreaker check))) ∧
      found true = some .up ∧ invoked true = some 3 ∧ found false = some .down ∧
      invoked false = some 2 ∧ ¬ Agree m.names (upshot true) (upshot false) := by
  intro db refused queue retry m upshot found invoked
  have overlapping : found true = some .up ∧ invoked true = some 3 := by
    have registered : (m.inMode true).checks.get? "queue" = some queue := rfl
    obtain ⟨n, is_over, eq⟩ := upshot_examine (m.inMode true) { wallStart := 0 } {} fun _ => 0
    obtain ⟨⟨h, entry, tells, -⟩, ⟨invocations, made, length⟩, -⟩ :=
      stands_run (m.inMode true) { wallStart := 0 } {} (fun _ _ => 0) rfl (Nat.dvd_zero _) nofun
        registered .absent (spares_alone "queue" n) is_over
    have reply : ((m.inMode true).plainRun queue).reply = .ok .up := by decide +kernel
    have three : ((m.inMode true).plainRun queue).invocations.length = 3 := by decide +kernel
    rw [reply] at tells
    have same : upshot true = _ := eq
    constructor
    · simp only [found, same]
      exact (congrArg (Option.map _) entry).trans (congrArg some tells.1)
    · simp only [invoked, same]
      exact (congrArg (Option.map _) made).trans (congrArg some (length.trans three))
  have in_turn : found false = some .down := by decide +kernel
  refine ⟨rfl, Nat.dvd_zero _, fun _ _ => .absent, overlapping.1, overlapping.2, in_turn,
    by decide +kernel, fun agree => ?_⟩
  obtain ⟨h, h', one, other, same, -⟩ := agree.results "queue" (by decide +kernel)
  have up : some h.status = some .up :=
    (congrArg (Option.map ServiceHealth.status) one).symm.trans overlapping.1
  have down : some h'.status = some .down :=
    (congrArg (Option.map ServiceHealth.status) other).symm.trans in_turn
  rw [same] at up
  cases up.symm.trans down

end Agreement

end Scene

end Safeguard
