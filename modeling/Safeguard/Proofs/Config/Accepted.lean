import Mathlib.Data.List.Basic
import Safeguard.Config.Loading
import Safeguard.Startup

/-!
# Accepted configurations

A configuration is accepted if it breaks no rule; whatever can be loaded is accepted. The rules are
checked for the general policy, for that of health checks, and for what each override makes of the
general one. A registry takes its policies from the same configuration but puts them together on its
own, one name at a time. Of an accepted configuration every policy that it comes to is valid, for
names with an override and for names without, and for health checks
(`Configuration.Accepted.valid_of_gives`).
-/

namespace Safeguard

theorem Problem.ifNot_eq_nil_iff {rule : Prop} [Decidable rule] {problem : Problem} :
    Problem.ifNot rule problem = [] ↔ rule := by
  unfold Problem.ifNot
  split <;> simp_all

theorem Problem.verdict_eq_ok_iff {problems : List Problem} :
    Problem.verdict problems = .ok () ↔ problems = [] := by
  cases problems <;> simp [Problem.verdict]

theorem Problem.verdict_eq_error_iff {problems listed : List Problem} :
    Problem.verdict problems = .error listed ↔ problems ≠ [] ∧ problems = listed := by
  cases problems <;> simp [Problem.verdict]

/-- A policy breaks no rule exactly if it is valid. -/
theorem BreakerPolicy.problems_eq_nil_iff {place : String} {p : BreakerPolicy} :
    p.problems place = [] ↔ p.Valid := by
  have positive : p.failureThreshold ≠ 0 ↔ 1 ≤ p.failureThreshold.toNat := by
    rw [Nat.one_le_iff_ne_zero, ne_eq, ne_eq, ← UInt32.toNat_inj, UInt32.toNat_zero]
  rw [BreakerPolicy.problems, List.append_eq_nil_iff, Problem.ifNot_eq_nil_iff,
    Problem.ifNot_eq_nil_iff, positive]

namespace Configuration

variable {c : Configuration}

/-- Whether a configuration is used: it has been checked, or it has been loaded. -/
inductive Accepted (c : Configuration) : Prop
  | checked (sound : c.problems = [])
  | parsed (text : String) (loaded : load text = .ok c)
  | read (bytes : Option (List UInt8)) (loaded : loadFile bytes = .ok c)

theorem problems_of_load {text : String} (loaded : load text = .ok c) : c.problems = [] := by
  unfold load at loaded
  split at loaded
  · cases loaded
  · split at loaded
    · rename_i sound
      cases loaded
      exact Problem.verdict_eq_ok_iff.mp sound
    · cases loaded

theorem problems_of_loadFile {bytes : Option (List UInt8)} (loaded : loadFile bytes = .ok c) :
    c.problems = [] := by
  unfold loadFile at loaded
  split at loaded
  · cases loaded
  · split at loaded
    · cases loaded
    · exact problems_of_load loaded

theorem Accepted.problems_eq_nil (accepted : c.Accepted) : c.problems = [] := by
  cases accepted with
  | checked sound => exact sound
  | parsed text loaded => exact problems_of_load loaded
  | read bytes loaded => exact problems_of_loadFile loaded

/-- The overrides break no rule exactly if what each of them makes of the general policy is
valid. -/
theorem dependencyProblems_eq_nil_iff {visited : List (String × BreakerOverride)} :
    c.dependencyProblems visited = [] ↔
      ∀ e ∈ visited, (c.breaker.overriddenBy e.2).Valid := by
  rw [dependencyProblems, List.flatMap_eq_nil_iff]
  exact forall₂_congr fun _ _ => BreakerPolicy.problems_eq_nil_iff

/-- The order of the problems does not matter where there are none. -/
theorem mergeSort_eq_nil_iff {listed : List Problem} {before : Problem → Problem → Bool} :
    listed.mergeSort before = [] ↔ listed = [] := by
  rw [← List.length_eq_zero_iff, List.length_mergeSort, List.length_eq_zero_iff]

/-- Whether a configuration gives a policy to the breaker of a name: that of the name, or that of
health checks. -/
def Gives (c : Configuration) (name : String) (policy : BreakerPolicy) : Prop :=
  policy = c.policyFor name ∨ policy = c.health.breaker

/-- The registry of a configuration takes its policies from there. -/
theorem policyFor_registryOf (c : Configuration) (name : String) :
    (Components.registryOf c).policyFor name = c.policyFor name := rfl

namespace Accepted

variable (accepted : c.Accepted)

include accepted

theorem valid_breaker : c.breaker.Valid := by
  have none := accepted.problems_eq_nil
  simp only [problems, problemsAround, List.append_eq_nil_iff,
    BreakerPolicy.problems_eq_nil_iff] at none
  exact none.1.1.1.1.1.1.1

/-- Health checks have valid breakers. -/
theorem valid_health : c.health.breaker.Valid := by
  have none := accepted.problems_eq_nil
  simp only [problems, problemsAround, List.append_eq_nil_iff,
    BreakerPolicy.problems_eq_nil_iff] at none
  exact none.1.1.1.1.1.1.2

/-- Every name gets a valid policy, with an override or without. -/
theorem valid_policyFor (name : String) : (c.policyFor name).Valid := by
  have none := accepted.problems_eq_nil
  simp only [problems, problemsAround, List.append_eq_nil_iff, mergeSort_eq_nil_iff,
    dependencyProblems_eq_nil_iff] at none
  have overridden := none.1.1.1.2
  unfold policyFor
  cases found : c.dependencies.get? name with
  | none => exact accepted.valid_breaker
  | some o => exact overridden (name, o) (NameMap.mem_of_find found)

/-- Every policy that is given is valid. -/
theorem valid_of_gives {name : String} {policy : BreakerPolicy} (given : c.Gives name policy) :
    policy.Valid := by
  obtain rfl | rfl := given
  · exact accepted.valid_policyFor name
  · exact accepted.valid_health

end Accepted

end Configuration

end Safeguard
