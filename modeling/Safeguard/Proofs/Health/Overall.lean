import Mathlib.Data.List.Forall2
import Mathlib.Data.Nat.Basic
import Mathlib.Order.Basic
import Safeguard.Health.Status

/-!
# The overall status as a fold

The overall status of a service depends on nothing but how many of its checks are up, degraded and
down (`overallStatus_eq`, `OverallStatus.ofTallies`). So it does not matter in which order the
results come, and everything else is said about three numbers. The status gets no better when more
checks are down and no more are not, as long as a service that was not all up does not become so
(`OverallStatus.ofTallies_mono`).

* `overallStatus_eq_unhealthy_iff` and `overallStatus_eq_healthy_iff` tell when a service is at
  either end.
* `overallStatus_mono` compares results that are worse one by one.
* `overallStatus_is_fair` puts these together.
-/

namespace Safeguard

/-! ## From good to bad -/

namespace ServiceStatus

/-- How bad it is. -/
def severity : ServiceStatus → Nat
  | up => 0
  | degraded => 1
  | down => 2

theorem severity_injective : Function.Injective severity := by
  intro a b
  cases a <;> cases b <;> decide

/-- A status is at most as good as those below it. -/
instance : PartialOrder ServiceStatus := PartialOrder.lift severity severity_injective

instance : DecidableLE ServiceStatus := fun a b =>
  inferInstanceAs (Decidable (a.severity ≤ b.severity))

end ServiceStatus

namespace OverallStatus

/-- How bad it is. -/
def severity : OverallStatus → Nat
  | healthy => 0
  | degraded => 1
  | unhealthy => 2

theorem severity_injective : Function.Injective severity := by
  intro a b
  cases a <;> cases b <;> decide

/-- A status is at most as good as those below it. -/
instance : PartialOrder OverallStatus := PartialOrder.lift severity severity_injective

instance : DecidableLE OverallStatus := fun a b =>
  inferInstanceAs (Decidable (a.severity ≤ b.severity))

theorem healthy_le (s : OverallStatus) : healthy ≤ s := Nat.zero_le s.severity

theorem le_unhealthy (s : OverallStatus) : s ≤ unhealthy := by
  cases s <;> decide

/-- The overall status of so many checks that are up, degraded and down. -/
def ofTallies (up degraded down : Nat) : OverallStatus :=
  if up + degraded < down then .unhealthy
  else if 0 < down ∨ 0 < degraded then .degraded
  else .healthy

/-- More checks that are down, and no more that are not, make it no better, unless the last check
that is not up is lost. -/
theorem ofTallies_mono {up degraded down up' degraded' down' : Nat} (more : down ≤ down')
    (fewer : up' + degraded' ≤ up + degraded)
    (kept : 0 < degraded → 0 < down' ∨ 0 < degraded') :
    ofTallies up degraded down ≤ ofTallies up' degraded' down' := by
  unfold ofTallies
  by_cases unhealthy : up' + degraded' < down'
  · rw [if_pos unhealthy]
    exact le_unhealthy _
  · rw [if_neg unhealthy, if_neg (by omega)]
    by_cases troubled : 0 < down' ∨ 0 < degraded'
    · rw [if_pos troubled]
      split <;> decide
    · rw [if_neg troubled, if_neg (by omega)]

end OverallStatus

/-! ## Counting results -/

/-- How many results have a status. -/
def tally (status : ServiceStatus) (services : List ServiceHealth) : Nat :=
  services.countP fun h => h.status == status

section Tally

variable (status : ServiceStatus) (h : ServiceHealth) (a b : List ServiceHealth)

theorem tally_cons :
    tally status (h :: a) = tally status a + if h.status = status then 1 else 0 := by
  simp only [tally, List.countP_cons, beq_iff_eq]

theorem tally_append : tally status (a ++ b) = tally status a + tally status b :=
  List.countP_append

theorem tally_of_perm {a b : List ServiceHealth} (perm : a.Perm b) :
    tally status a = tally status b := perm.countP_eq _

/-- Every result counts once. -/
theorem length_eq_tallies : a.length = tally .up a + tally .degraded a + tally .down a := by
  induction a with
  | nil => rfl
  | cons h a ih =>
    simp only [tally_cons, List.length_cons, ih]
    cases h.status <;> simp only [reduceCtorEq, if_true, if_false] <;> omega

theorem tally_pos_iff : 0 < tally status a ↔ ∃ h ∈ a, h.status = status := by
  simp only [tally, List.countP_pos_iff, beq_iff_eq]

end Tally

/-! ## The overall status -/

/-- The overall status depends on three numbers alone. -/
theorem overallStatus_eq (services : List ServiceHealth) :
    overallStatus services =
      .ofTallies (tally .up services) (tally .degraded services) (tally .down services) := by
  have length := length_eq_tallies services
  have more_than_half : services.length < tally .down services * 2 ↔
      tally .up services + tally .degraded services < tally .down services := by omega
  change (if services.length < tally .down services * 2 then _ else _) = _
  simp only [more_than_half]
  rfl

theorem overallStatus_eq_unhealthy_iff (services : List ServiceHealth) :
    overallStatus services = .unhealthy ↔ services.length < 2 * tally .down services := by
  have length := length_eq_tallies services
  rw [overallStatus_eq, OverallStatus.ofTallies]
  by_cases most : tally .up services + tally .degraded services < tally .down services
  · rw [if_pos most]
    exact iff_of_true rfl (by omega)
  · rw [if_neg most]
    refine iff_of_false ?_ (by omega)
    split <;> decide

theorem overallStatus_eq_healthy_iff (services : List ServiceHealth) :
    overallStatus services = .healthy ↔ ∀ h ∈ services, h.status = .up := by
  have all_up : (∀ h ∈ services, h.status = .up) ↔
      ¬ (0 < tally .down services ∨ 0 < tally .degraded services) := by
    simp only [tally_pos_iff, not_or, not_exists, not_and]
    refine ⟨fun up => ⟨fun h mem => ?_, fun h mem => ?_⟩, fun ⟨not_down, not_degraded⟩ h mem => ?_⟩
    · rw [up h mem]
      decide
    · rw [up h mem]
      decide
    · cases status : h.status with
      | up => rfl
      | degraded => exact absurd status (not_degraded h mem)
      | down => exact absurd status (not_down h mem)
  rw [all_up, overallStatus_eq, OverallStatus.ofTallies]
  split
  · refine iff_of_false (by decide) fun troubled => troubled (.inl ?_)
    omega
  · split
    · rename_i troubled
      exact iff_of_false (by decide) (not_not_intro troubled)
    · rename_i troubled
      exact iff_of_true rfl troubled

/-- Results that are worse one by one are no better as a whole. -/
theorem overallStatus_mono {a b : List ServiceHealth}
    (worse : List.Forall₂ (fun h h' => h.status ≤ h'.status) a b) :
    overallStatus a ≤ overallStatus b := by
  have tallies : tally .down a ≤ tally .down b ∧
      tally .up b + tally .degraded b ≤ tally .up a + tally .degraded a ∧
        (0 < tally .degraded a → 0 < tally .down b ∨ 0 < tally .degraded b) := by
    induction worse with
    | nil => decide
    | @cons h h' a b le _ ih =>
      simp only [tally_cons]
      cases status : h.status <;> cases status' : h'.status <;> rw [status, status'] at le <;>
        simp only [reduceCtorEq, if_true, if_false] <;>
        first | omega | exact absurd le (by decide)
  rw [overallStatus_eq, overallStatus_eq]
  exact OverallStatus.ofTallies_mono tallies.1 tallies.2.1 tallies.2.2

/-- **The overall status is a fair fold.** It depends on nothing but how many results there are of
each status, and so not on their order. A service is unhealthy exactly if more than half of its
checks are down, healthy exactly if all of them are up, and degraded otherwise. Results that are
worse make it no better, one more check that is up makes it no worse, and one more that is down no
better. -/
theorem overallStatus_is_fair :
    (∀ a b, (∀ status, tally status a = tally status b) → overallStatus a = overallStatus b) ∧
      (∀ a b, a.Perm b → overallStatus a = overallStatus b) ∧
      (∀ services,
        (overallStatus services = .unhealthy ↔ services.length < 2 * tally .down services) ∧
          (overallStatus services = .healthy ↔ ∀ h ∈ services, h.status = .up) ∧
          (overallStatus services = .degraded ↔
            ¬ services.length < 2 * tally .down services ∧ ∃ h ∈ services, h.status ≠ .up)) ∧
      (∀ a b, List.Forall₂ (fun h h' => h.status ≤ h'.status) a b →
        overallStatus a ≤ overallStatus b) ∧
      (∀ before h h' after, h.status ≤ h'.status →
        overallStatus (before ++ h :: after) ≤ overallStatus (before ++ h' :: after)) ∧
      (∀ before h after, h.status = .up →
        overallStatus (before ++ h :: after) ≤ overallStatus (before ++ after)) ∧
      ∀ before h after, h.status = .down →
        overallStatus (before ++ after) ≤ overallStatus (before ++ h :: after) := by
  have counted : ∀ a b, (∀ status, tally status a = tally status b) →
      overallStatus a = overallStatus b := by
    intro a b same
    rw [overallStatus_eq, overallStatus_eq, same, same, same]
  refine ⟨counted, fun a b perm => counted a b fun status => tally_of_perm status perm,
    fun services => ⟨overallStatus_eq_unhealthy_iff services,
      overallStatus_eq_healthy_iff services, ?_⟩,
    fun a b => overallStatus_mono, fun before h h' after le => ?_, fun before h after up => ?_,
    fun before h after down => ?_⟩
  · rw [← overallStatus_eq_unhealthy_iff]
    have some_not_up : (∃ h ∈ services, h.status ≠ .up) ↔ ¬ overallStatus services = .healthy := by
      rw [overallStatus_eq_healthy_iff]
      push Not
      rfl
    rw [some_not_up]
    cases overallStatus services <;> decide
  · refine overallStatus_mono (List.rel_append ?_ (.cons le ?_))
    · exact List.forall₂_refl before
    · exact List.forall₂_refl after
  · rw [overallStatus_eq, overallStatus_eq]
    apply OverallStatus.ofTallies_mono <;>
      simp only [tally_append, tally_cons, up, reduceCtorEq, if_true, if_false] <;> omega
  · rw [overallStatus_eq, overallStatus_eq]
    apply OverallStatus.ofTallies_mono <;>
      simp only [tally_append, tally_cons, down, reduceCtorEq, if_true, if_false] <;> omega

/-- Exactly half of the checks being down is not more than half. -/
example (now : UInt64) :
    overallStatus [.up now, .down "gone" now] = .degraded ∧
      overallStatus [.up now, .down "gone" now, .down "gone" now] = .unhealthy := ⟨rfl, rfl⟩

end Safeguard
