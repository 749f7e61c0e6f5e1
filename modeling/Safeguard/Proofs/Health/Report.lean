import Safeguard.Proofs.Health.Course

/-!
# What a round reports

A round of health checks ends, and what it reports is what happened in it, whatever else is done
while it is under way (`Scene.health_tells_what_happened`): it has one result for each check that
was registered when the round began and no other; each result tells what became of its check; and
the overall status is derived from exactly these results. An examination by a monitor is the run
in which nothing else is done (`Scene.upshot_examine`).
-/

namespace Safeguard

/-- What a round leaves behind. -/
structure Upshot where
  health : HealthStatus
  invocations : NameMap (List Nat)
  registry : Registry

/-- What an examination leaves behind. -/
def Examination.upshot (e : Examination) : Upshot where
  health := e.health
  invocations := e.invocations
  registry := e.registry

/-- What a scene leaves behind if the round is over. -/
def Scene.upshot (s : Scene) : Upshot where
  health := s.health
  invocations := s.round.invocations
  registry := s.round.registry

namespace Scene

section Report

variable (m : Monitor) (clock : Clock) (registry : Registry) (draw : String → Nat → Float)

theorem names_eq_of_mem_iff {α β : Type} {a : NameMap α} {b : NameMap β}
    (same : ∀ name, name ∈ a.names ↔ name ∈ b.names) : a.names = b.names := by
  have perm : a.names.Perm b.names :=
    (List.perm_ext_iff_of_nodup a.nodup_names b.nodup_names).2 same
  refine perm.eq_of_pairwise (fun x y _ _ lt gt => ?_) a.names_ascending b.names_ascending
  exact absurd (String.lt_trans lt gt) (String.lt_irrefl x)

/-- A round that is over has a result for each check of its beginning, and no other. -/
theorem names_services {es : List Happening}
    (isOver : ((start m clock registry draw).run es).IsOver) :
    ((start m clock registry draw).run es).round.services.names = m.names := by
  refine names_eq_of_mem_iff fun check => ?_
  rw [NameMap.mem_names_iff, NameMap.mem_names_iff]
  cases registered : m.checks.get? check with
  | none =>
    have missing := (shows_run_of_absent m clock registry draw registered es).entry
    rw [show ((start m clock registry draw).run es).round.services.get? check = none from missing]
    exact ⟨nofun, nofun⟩
  | some operation =>
    obtain ⟨h, entry, -⟩ := (stage_run m clock registry draw registered es).reports isOver
    rw [show ((start m clock registry draw).run es).round.services.get? check = some h from entry]
    exact ⟨fun _ => rfl, fun _ => rfl⟩

/-- An examination is the run in which nothing else is done. -/
theorem upshot_examine (draw : Nat → Float) :
    ∃ n, ((start m clock registry fun _ => draw).run (alone n)).IsOver ∧
      (m.examine clock registry draw).upshot =
        ((start m clock registry fun _ => draw).run (alone n)).upshot := by
  obtain ⟨n, isOver, monitor, round⟩ := run_undisturbed m clock registry draw
  refine ⟨n, isOver, ?_⟩
  rw [upshot, health, monitor, round]
  rfl

end Report

/-- **A round ends and reports exactly what happened**, whatever is registered, removed or done to
breakers while it is under way. -/
theorem health_tells_what_happened (m : Monitor) (clock : Clock) (registry : Registry)
    (draw : String → Nat → Float) :
    let s := start m clock registry draw
    (∀ es, m.stepsPerCheck * m.checks.size ≤ es.countP Happening.isProceed →
        (s.run es).IsOver) ∧
      (∀ same, (draw = fun _ => same) → ∃ n, (s.run (alone n)).IsOver ∧
        (m.examine clock registry same).upshot = (s.run (alone n)).upshot) ∧
      ∀ es, (s.run es).IsOver →
        (s.run es).health.services.names = m.names ∧
          (s.run es).health.status =
            overallStatus ((s.run es).health.services.entries.map Prod.snd) ∧
          ∀ check operation, m.checks.get? check = some operation →
            ∃ h, (s.run es).health.services.get? check = some h ∧
              s.Reports es check operation h := by
  refine ⟨fun es many => isOver_run m clock registry draw many, ?_, fun es isOver => ?_⟩
  · rintro same rfl
    exact upshot_examine m clock registry same
  refine ⟨names_services m clock registry draw isOver, rfl, fun check operation registered => ?_⟩
  obtain ⟨h, entry, reports⟩ := (stage_run m clock registry draw registered es).reports isOver
  exact ⟨h, entry, reports⟩

/-- While the only check is under way it is removed and its breaker is forced open. It is reported
all the same, with its finding and with a breaker that is open. -/
theorem health_tells_what_happened_of_forced_open :
    let db : Check := { script := fun _ => { delay := 5000000, reply := .ok .up } }
    let m : Monitor :=
      { settings := { concurrent := false, retry := .noRetry }
        checks := NameMap.empty.insert "db" db }
    let s := start m { wallStart := 0 } {} fun _ _ => 0
    let es : List Happening :=
      [.proceed, .proceed, .wait 2000000, .deed (.unregister "db"),
        .deed (.forceOpen "health-db"), .proceed]
    (s.run es).IsOver ∧ (s.run es).health.services.names = ["db"] ∧
      ∃ h, (s.run es).health.services.get? "db" = some h ∧ s.Reports es "db" db h ∧
        h.status = .up ∧ h.responseTime = some 5000000 ∧ h.circuitState = some .opened := by
  intro db m s es
  have isOver : (s.run es).IsOver := ⟨by decide +kernel, by decide +kernel⟩
  obtain ⟨names, -, results⟩ :=
    (health_tells_what_happened m { wallStart := 0 } {} fun _ _ => 0).2.2 es isOver
  obtain ⟨h, found, reports⟩ := results "db" db rfl
  have result : (s.run es).health.services.get? "db" =
      some { status := .up, responseTime := some 5000000, circuitState := some .opened
             lastCheck := 5 } := by
    decide +kernel
  obtain rfl := Option.some.inj (found.symm.trans result)
  exact ⟨isOver, names, _, found, reports, rfl, rfl, rfl⟩

end Scene

end Safeguard
