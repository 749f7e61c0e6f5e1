import Mathlib.Data.List.Dedup
import Safeguard.Proofs.Config.Accepted
import Safeguard.Proofs.Health.Report
import Safeguard.Proofs.Health.Steady
import Safeguard.Startup

/-!
# Declared targets

A service that has just been put together has one health check for each name among its declared
targets: that of the last target of the name, which tries to reach the address of this target within
its limit (`Components.every_name_is_monitored`). Every round of health checks makes the result of
the name from the attempts of this check, if the breaker of the check is closed when the round
begins and nobody else does anything to it. A target that is followed by another one of the same
name is not monitored (`Components.earlier_target_is_lost`).
-/

namespace Safeguard

theorem NameMap.size_ofList {α : Type} (entries : List (String × α)) :
    (ofList entries).size = (entries.map Prod.fst).dedup.length := by
  have same : (ofList entries).names.Perm (entries.map Prod.fst).dedup := by
    refine (List.perm_ext_iff_of_nodup (nodup_names _) (List.nodup_dedup _)).mpr fun name => ?_
    rw [mem_names_ofList, List.mem_dedup]
  rw [← same.length_eq, names, List.length_map, size]

/-- Nothing is lost exactly if no name occurs twice. -/
theorem NameMap.size_ofList_eq_length_iff {α : Type} {entries : List (String × α)} :
    (ofList entries).size = entries.length ↔ (entries.map Prod.fst).Nodup := by
  rw [size_ofList, ← List.length_map (f := Prod.fst), ← List.dedup_eq_self]
  exact ⟨(List.dedup_sublist _).eq_of_length, congrArg List.length⟩

namespace CheckTarget

/-- The check of a target. -/
def check (network : Network) (t : CheckTarget) : Check :=
  .reach network t.address (ofMillis t.timeout)

end CheckTarget

theorem Script.after_after {α : Type} (s : Script α) (made more : Nat) :
    (s.after made).after more = s.after (made + more) :=
  funext fun n => congrArg s (Nat.add_assoc made more n).symm

theorem Script.after_zero {α : Type} (s : Script α) : s.after 0 = s :=
  funext fun n => congrArg s (Nat.zero_add n)

theorem Check.after_after (check : Check) (made more : Nat) :
    (check.after made).after more = check.after (made + more) := by
  simp only [after, Script.after_after]

theorem Check.after_zero (check : Check) : check.after 0 = check := by
  simp only [after, Script.after_zero]

/-- Rounds leave every check where it is, with more attempts made. -/
theorem Monitor.exists_after {m : Monitor} {name : String} {check : Check} {made : Nat}
    (registered : m.checks.get? name = some (check.after made)) (rounds : List Round) :
    ∃ more, (rounds.foldl Monitor.after m).checks.get? name = some (check.after more) := by
  induction rounds generalizing m made with
  | nil => exact ⟨made, registered⟩
  | cons r rounds ih =>
    have next : (m.after r).checks.get? name =
        some (check.after (made + ((r.invocations.get? name).getD []).length)) := by
      rw [Monitor.after, NameMap.get?_map, registered, Option.map_some, Check.after_after]
    exact ih next

namespace Components

/-- The checks of targets are registered by name, and the last one of a name counts. -/
theorem checks_addTargets (network : Network) (m : Monitor) (targets : List CheckTarget) :
    (addTargets network m targets).1.checks =
      (targets.map fun t => (t.name, t.check network)).foldl (fun checks e => checks.insert e.1 e.2)
        m.checks := by
  induction targets generalizing m with
  | nil => rfl
  | cons target targets ih => exact ih (addTarget network m target).1

theorem checks_build (network : Network) (clock : Clock) (c : Configuration) :
    (build network clock c).1.monitor.checks =
      NameMap.ofList (c.health.checks.map fun t => (t.name, t.check network)) :=
  checks_addTargets network _ c.health.checks

end Components

namespace Scene

/-- When the round is over, the result of a target is that of its check, of which some attempts have
been made before: the breaker lets the check through, attempts to reach the address are made, and
the last one makes the result. -/
def Probes (s : Scene) (es : List Happening) (network : Network) (t : CheckTarget)
    (made : Nat) : Prop :=
  ∃ before between after h, es = before ++ .proceed :: between ++ .proceed :: after ∧
    (s.run es).health.services.get? t.name = some h ∧
    s.Answered t.name ((t.check network).after made) before between h ∧
    (s.run es).round.invocations.get? t.name =
      some (s.attempts t.name ((t.check network).after made) before).invocations

/-- The breaker of a check is closed, or there is none yet. -/
def Unhindered (registry : Registry) (check : String) : Prop :=
  ∀ b, registry.get? (checkBreaker check) = some b → b.circuit.state = .closed

variable {m : Monitor} {clock : Clock} {registry : Registry} {draw : String → Nat → Float}
  {check : String} {es : List Happening}

/-- A check whose breaker is closed is not turned away, if nobody else does anything to the
breaker. -/
theorem not_turnedAway {operation : Check} {before : List Happening} {h : ServiceHealth}
    (unhindered : Unhindered registry check)
    (same : ((start m clock registry draw).run before).guard check =
      (start m clock registry draw).guard check) :
    ¬(start m clock registry draw).TurnedAway check operation before h := by
  intro turnedAway
  obtain ⟨retryIn, rejected⟩ := turnedAway.rejected
  obtain ⟨threshold, failures, successes, finds⟩ : ∃ threshold failures successes,
      FindsClosed ((start m clock registry draw).run before).monitor.settings.breaker
        (((start m clock registry draw).run before).guard check) threshold failures successes := by
    rw [same]
    cases there : (start m clock registry draw).guard check with
    | none => exact ⟨_, _, _, .absent⟩
    | some b => exact ⟨_, _, _, .present (unhindered b there)⟩
  obtain ⟨-, admitted, -⟩ := finds.admitted ((start m clock registry draw).run before).round.clock
  cases admitted.symm.trans rejected

/-- A round probes a registered target whose breaker is closed, if nobody else does anything to the
breaker. -/
theorem probes_of_registered {network : Network} {t : CheckTarget} {made : Nat}
    (registered : m.checks.get? t.name = some ((t.check network).after made))
    (unhindered : Unhindered registry t.name)
    (isOver : ((start m clock registry draw).run es).IsOver) (spares : Spares t.name es) :
    (start m clock registry draw).Probes es network t made := by
  obtain ⟨before, between, after, h, split, answered, shows, -⟩ |
    ⟨before, after, h, split, turnedAway, -, spared⟩ :=
    (stage_run m clock registry draw registered es).of_isOver isOver
  · exact ⟨before, between, after, h, split, shows.entry, answered, shows.invoked⟩
  · exact absurd turnedAway (not_turnedAway unhindered (spared spares))

end Scene

/-- **Every declared name is monitored, by the last target of the name.** A service that has just
been put together has one check for each name, so it has as many checks as targets exactly if no
two targets share a name. The check of the last target of a name tries to reach its address within
its limit, and every round of health checks makes the result of the name from the attempts of this
check, if the breaker of the check is closed when the round begins, as it is at first, and nobody
else does anything to it. -/
theorem Components.every_name_is_monitored (network : Network) (clock : Clock)
    (c : Configuration) :
    let m := (build network clock c).1.monitor
    let names := c.health.checks.map CheckTarget.name
    m.checks.size = names.dedup.length ∧
      (m.checks.size = c.health.checks.length ↔ names.Nodup) ∧
      (∀ check, Scene.Unhindered (build network clock c).1.registry check) ∧
      ∀ before t after, c.health.checks = before ++ t :: after →
        t.name ∉ after.map CheckTarget.name →
          m.checks.get? t.name = some (t.check network) ∧
            ∀ rounds : List Round, ∃ made, ∀ now registry draw, Scene.Unhindered registry t.name →
              let s := Scene.start (rounds.foldl Monitor.after m) now registry draw
              ∀ es, (s.run es).IsOver → Scene.Spares t.name es → s.Probes es network t made := by
  intro m names
  have checks : m.checks =
      NameMap.ofList (c.health.checks.map fun t => (t.name, t.check network)) :=
    checks_build network clock c
  have named : (c.health.checks.map fun t => (t.name, t.check network)).map Prod.fst = names := by
    rw [List.map_map]
    rfl
  refine ⟨?_, ?_, nofun, fun before t after split last => ?_⟩
  · rw [checks, NameMap.size_ofList, named]
  · rw [checks, ← named, ← NameMap.size_ofList_eq_length_iff, List.length_map]
  · have registered : m.checks.get? t.name = some (t.check network) := by
      rw [checks, split, List.map_append, List.map_cons]
      refine NameMap.get?_ofList_of_last ?_
      rw [List.map_map]
      exact last
    refine ⟨registered, fun rounds => ?_⟩
    rw [← Check.after_zero (t.check network)] at registered
    obtain ⟨made, registered⟩ := Monitor.exists_after registered rounds
    exact ⟨made, fun now registry draw unhindered es isOver spares =>
      Scene.probes_of_registered registered unhindered isOver spares⟩

/-- Of two targets that share a name the last one is probed, here in time, while another one takes
longer than its limit. -/
theorem Components.every_name_is_monitored_of_shared_name :
    let network : Network :=
      { connect := fun address _ =>
          { delay := if address = "10.0.0.3:6379" then 3000000000 else 5000000, reply := .ok () } }
    let db : CheckTarget := { name := "db", address := "10.0.0.2:5432" }
    let earlier : List CheckTarget :=
      [{ name := "db", address := "10.0.0.1:5432" },
        { name := "cache", address := "10.0.0.3:6379" }]
    let c : Configuration :=
      { health := { concurrent := false, retry := .noRetry, checks := earlier ++ [db] } }
    let m := (build network { wallStart := 0 } c).1.monitor
    let s := Scene.start m { wallStart := 0 } {} fun _ _ => 0
    m.checks.size = 2 ∧ (s.run (Scene.alone 7)).IsOver ∧
      (∃ made, s.Probes (Scene.alone 7) network db made) ∧
      ((s.run (Scene.alone 7)).health.services.entries.map fun e => (e.1, e.2.status, e.2.error)) =
        [("cache", .down, some "10.0.0.3:6379: connect timed out after 2s"),
          ("db", .up, none)] := by
  intro network db earlier c m s
  obtain ⟨size, -, -, probed⟩ := every_name_is_monitored network { wallStart := 0 } c
  have isOver : (s.run (Scene.alone 7)).IsOver := ⟨by decide +kernel, by decide +kernel⟩
  have spares : Scene.Spares "db" (Scene.alone 7) := by
    intro e mem
    rw [List.eq_of_mem_replicate mem]
    exact nofun
  obtain ⟨made, probes⟩ := (probed earlier db [] rfl List.not_mem_nil).2 []
  refine ⟨size.trans (by decide), isOver, ⟨made, ?_⟩, by decide +kernel⟩
  exact probes { wallStart := 0 } {} (fun _ _ => 0) nofun _ isOver spares

/-- A target that is followed by another one of the same name is not monitored, though the
configuration is accepted: nothing tells that its address cannot be reached. -/
theorem Components.earlier_target_is_lost :
    let network : Network :=
      { connect := fun address _ =>
          { reply := if address = "10.0.0.1:5432" then .error "refused" else .ok () } }
    let c : Configuration :=
      { health :=
          { concurrent := false
            checks :=
              [{ name := "db", address := "10.0.0.1:5432" },
                { name := "db", address := "10.0.0.2:5432" }] } }
    let parts := (build network { wallStart := 0 } c).1
    let health := (parts.monitor.examine { wallStart := 0 } parts.registry fun _ => 0).health
    c.problems = [] ∧ parts.monitor.checks.size ≠ c.health.checks.length ∧
      (health.services.entries.map fun e => (e.1, e.2.status)) = [("db", .up)] := by
  decide +kernel

end Safeguard
