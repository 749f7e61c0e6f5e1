import Mathlib.Data.List.Nodup
import Mathlib.Data.Nat.Basic
import Mathlib.Order.Basic
import Safeguard.Proofs.Config.Accepted
import Safeguard.Proofs.Numeric.Order

/-!
# The rules of a configuration

A `Rule` asks something of one part of a configuration: of the policy of breakers or of retries at
some place, of a declared check, or of an address. Validation goes through all of them
(`Configuration.problemsAlong_eq`), and no two of them are about one field
(`Rule.eq_of_field_eq`). So it is exact: a configuration that breaks no rule is accepted, and for
any other one the list has one problem for each broken rule, with a field of its own
(`Configuration.validation_exact`).
-/

namespace Safeguard

/-! ## Rules -/

/-- Where a configuration has a policy of breakers. -/
inductive BreakerPlace
  | general
  | healthChecks
  | dependency (name : String)
  deriving DecidableEq

namespace BreakerPlace

/-- The policy at a place. A dependency that is declared has the general policy, overridden. -/
def policy? (c : Configuration) : BreakerPlace → Option BreakerPolicy
  | general => some c.breaker
  | healthChecks => some c.health.breaker
  | dependency name => (c.dependencies.get? name).map c.breaker.overriddenBy

/-- The name of a place. -/
def name : BreakerPlace → String
  | general => "circuit_breaker"
  | healthChecks => "health.breaker"
  | dependency name => "dependencies." ++ name

end BreakerPlace

/-- Where a configuration has a retry policy. -/
inductive RetryPlace
  | general
  | healthChecks
  deriving DecidableEq

namespace RetryPlace

/-- The policy at a place. -/
def policy (c : Configuration) : RetryPlace → RetryPolicy
  | general => c.retries
  | healthChecks => c.health.retry

/-- The name of a place. -/
def name : RetryPlace → String
  | general => "retries"
  | healthChecks => "health.retry"

end RetryPlace

/-- What a configuration may be asked for. -/
inductive Rule
  | threshold (place : BreakerPlace)
  | errorRate (place : BreakerPlace)
  | attempts (place : RetryPlace)
  | multiplier (place : RetryPlace)
  | delays (place : RetryPlace)
  | checkName (index : Nat)
  | checkTimeout (index : Nat)
  | adminAddress
  | metricsAddress
  deriving DecidableEq

namespace Rule

/-- What a rule asks of a configuration. -/
def Holds (c : Configuration) : Rule → Prop
  | threshold place => ∀ p ∈ place.policy? c, 1 ≤ p.failureThreshold
  | errorRate place =>
    ∀ p ∈ place.policy? c, 0.0 ≤ p.expectedErrorRate ∧ p.expectedErrorRate ≤ 1.0
  | attempts place => 1 ≤ (place.policy c).maxAttempts
  | multiplier place =>
    (place.policy c).multiplier.isFinite = true ∧ 1.0 ≤ (place.policy c).multiplier
  | delays place => (place.policy c).baseDelay ≤ (place.policy c).maxDelay
  | checkName index => ∀ t ∈ c.health.checks[index]?, Text.isBlankText t.name = false
  | checkTimeout index => ∀ t ∈ c.health.checks[index]?, 0 < t.timeout
  | adminAddress => c.admin.enabled = true → SocketAddress.isValid c.admin.bindAddress = true
  | metricsAddress =>
    c.observability.metricsEnabled = true →
      SocketAddress.isValid c.observability.metricsAddress = true

instance (c : Configuration) : DecidablePred (Holds c) := fun r => by
  cases r <;> unfold Holds <;> infer_instance

/-- The problem of a configuration that breaks a rule. -/
def problem (c : Configuration) : Rule → Problem
  | threshold place => .thresholdIsZero place.name
  | errorRate place => .rateOutOfRange place.name
  | attempts place => .noAttempts place.name
  | multiplier place => .multiplierTooSmall place.name
  | delays place => .baseExceedsMaximum place.name
  | checkName index => .blankCheckName index
  | checkTimeout index => .zeroCheckTimeout index
  | adminAddress => .badAdminAddress c.admin.bindAddress
  | metricsAddress => .badMetricsAddress c.observability.metricsAddress

/-- The dependency that a rule is about, if it is about one. -/
def dependency? : Rule → Option String
  | threshold (.dependency name) => some name
  | errorRate (.dependency name) => some name
  | _ => none

/-- The stage of validation at which a rule is gone through. -/
def stage : Rule → Nat
  | threshold (.dependency _) | errorRate (.dependency _) => 1
  | threshold _ | errorRate _ | attempts _ | multiplier _ | delays _ => 0
  | checkName _ | checkTimeout _ => 2
  | adminAddress => 3
  | metricsAddress => 4

/-- The second stage is that of dependencies. -/
theorem dependency?_eq_none_of_stage_ne {r : Rule} (other : r.stage ≠ 1) :
    r.dependency? = none := by
  cases r with
  | threshold place | errorRate place =>
    cases place with
    | general | healthChecks => rfl
    | dependency => exact absurd rfl other
  | _ => rfl

/-! ## Fields -/

/-- The name of a declared check. -/
def checkPart (index : Nat) : String := "health.checks[" ++ toString index ++ "]"

/-- The part of a configuration that a rule is about. -/
def part : Rule → String
  | threshold place | errorRate place => place.name
  | attempts place | multiplier place | delays place => place.name
  | checkName index | checkTimeout index => checkPart index
  | adminAddress => "admin"
  | metricsAddress => "observability"

/-- The key that a rule is about, within its part. -/
def key : Rule → String
  | threshold _ => "failure_threshold"
  | errorRate _ => "expected_error_rate"
  | attempts _ => "max_attempts"
  | multiplier _ => "backoff_multiplier"
  | delays _ => "base_delay_ms"
  | checkName _ => "name"
  | checkTimeout _ => "timeout_ms"
  | adminAddress => "bind_address"
  | metricsAddress => "metrics_address"

theorem field_problem (c : Configuration) (r : Rule) :
    (r.problem c).field = r.part ++ "." ++ r.key := by
  cases r with
  | threshold | errorRate | attempts | multiplier | delays =>
    simp only [problem, Problem.field, part, key, String.append_assoc]
    rfl
  | checkName | checkTimeout =>
    change _ ++ "]." ++ _ = _
    rw [show "]." = "]" ++ "." by decide, ← String.append_assoc]
    rfl
  | adminAddress =>
    exact (by decide : "admin.bind_address" = "admin" ++ "." ++ "bind_address")
  | metricsAddress =>
    exact (by decide : "observability.metrics_address" =
      "observability" ++ "." ++ "metrics_address")

theorem dot_not_mem_key (r : Rule) : '.' ∉ r.key.toList := by
  cases r <;> simp only [key] <;> decide

/-- What comes before the last occurrence of an item, and what comes after it, is determined. -/
theorem append_cons_inj_of_not_mem {α : Type} {x : α} {before after before' after' : List α}
    (last : x ∉ after) (last' : x ∉ after')
    (eq : before ++ x :: after = before' ++ x :: after') : before = before' ∧ after = after' := by
  obtain ⟨more, rfl, rest⟩ | ⟨more, rfl, rest⟩ := List.append_eq_append_iff.mp eq
  all_goals
    cases more with
    | nil => simpa [eq_comm] using rest
    | cons y more =>
      obtain ⟨rfl, rfl⟩ := List.cons_eq_cons.mp rest
      simp at last last'

theorem part_eq_and_key_eq {r r' : Rule}
    (same : r.part ++ "." ++ r.key = r'.part ++ "." ++ r'.key) :
    r.part = r'.part ∧ r.key = r'.key := by
  have same : r.part.toList ++ '.' :: r.key.toList = r'.part.toList ++ '.' :: r'.key.toList := by
    simpa [← String.toList_inj] using same
  obtain ⟨parts, keys⟩ :=
    append_cons_inj_of_not_mem r.dot_not_mem_key r'.dot_not_mem_key same
  exact ⟨String.toList_inj.mp parts, String.toList_inj.mp keys⟩

end Rule

theorem BreakerPlace.name_injective : Function.Injective name := by
  intro p p' same
  have same := congrArg String.toList same
  cases p <;> cases p' <;> simp [name, ← String.toList_inj] at same ⊢
  exact same

theorem RetryPlace.name_injective : Function.Injective name := by
  intro p p' same
  cases p <;> cases p' <;> simp [name] at same ⊢

namespace Rule

theorem checkPart_injective : Function.Injective checkPart := by
  intro i j same
  change "health.checks[" ++ toString i ++ "]" = "health.checks[" ++ toString j ++ "]" at same
  rw [String.append_left_inj, String.append_right_inj] at same
  have digits : Nat.toDigits 10 i = Nat.toDigits 10 j := by
    rw [← Nat.toList_repr, ← Nat.toList_repr]
    exact congrArg String.toList same
  rw [← Nat.ofDigitChars_ten_toDigits (n := i), digits, Nat.ofDigitChars_ten_toDigits]

/-- No two rules are about one field: its key tells the kind of the rule, and the rest tells where
the rule applies. -/
theorem eq_of_field_eq {c : Configuration} {r r' : Rule}
    (same : (r.problem c).field = (r'.problem c).field) : r = r' := by
  rw [field_problem, field_problem] at same
  obtain ⟨parts, keys⟩ := part_eq_and_key_eq same
  cases r <;> cases r' <;> simp only [key, String.reduceEq] at keys
  case threshold.threshold | errorRate.errorRate =>
    rw [BreakerPlace.name_injective parts]
  case attempts.attempts | multiplier.multiplier | delays.delays =>
    rw [RetryPlace.name_injective parts]
  case checkName.checkName | checkTimeout.checkTimeout =>
    rw [checkPart_injective parts]
  case adminAddress.adminAddress | metricsAddress.metricsAddress => rfl

end Rule

/-! ## Validation -/

theorem Problem.ifNot_congr {rule rule' : Prop} [Decidable rule] [Decidable rule']
    (same : rule ↔ rule') (problem : Problem) :
    Problem.ifNot rule problem = Problem.ifNot rule' problem := by
  simp only [Problem.ifNot, same]

namespace Configuration

variable (c : Configuration)

/-- The problems of those rules that a configuration breaks. -/
def problemsOf (rules : List Rule) : List Problem :=
  (rules.filter fun r => ¬r.Holds c).map (Rule.problem c)

theorem problemsOf_append (rules more : List Rule) :
    c.problemsOf (rules ++ more) = c.problemsOf rules ++ c.problemsOf more := by
  rw [problemsOf, List.filter_append, List.map_append]
  rfl

theorem problemsOf_cons (r : Rule) (rules : List Rule) :
    c.problemsOf (r :: rules) = Problem.ifNot (r.Holds c) (r.problem c) ++ c.problemsOf rules := by
  unfold problemsOf Problem.ifNot
  by_cases holds : r.Holds c <;> simp [holds]

theorem problemsOf_singleton (r : Rule) :
    c.problemsOf [r] = Problem.ifNot (r.Holds c) (r.problem c) :=
  (c.problemsOf_cons r []).trans (List.append_nil _)

theorem problemsOf_flatMap {α : Type} (items : List α) (rules : α → List Rule) :
    c.problemsOf (items.flatMap rules) = items.flatMap fun a => c.problemsOf (rules a) := by
  induction items with
  | nil => rfl
  | cons a items ih => rw [List.flatMap_cons, problemsOf_append, ih, List.flatMap_cons]

end Configuration

/-- The rules for a policy of breakers. -/
def BreakerPlace.rules (place : BreakerPlace) : List Rule := [.threshold place, .errorRate place]

/-- The rules for a retry policy. -/
def RetryPlace.rules (place : RetryPlace) : List Rule :=
  [.attempts place, .multiplier place, .delays place]

/-- The rules for a declared check. -/
def CheckTarget.rules (index : Nat) : List Rule := [.checkName index, .checkTimeout index]

namespace Configuration

/-- The rules for the policies that every configuration has. -/
def policyRules : List Rule :=
  BreakerPlace.general.rules ++ BreakerPlace.healthChecks.rules ++ RetryPlace.general.rules ++
    RetryPlace.healthChecks.rules

/-- The rules for the policies of dependencies. -/
def dependencyRules (visited : List (String × BreakerOverride)) : List Rule :=
  visited.flatMap fun e => (BreakerPlace.dependency e.1).rules

/-- The rules for declared checks. -/
def checkRules (c : Configuration) : List Rule :=
  (List.range c.health.checks.length).flatMap CheckTarget.rules

/-- The rules that are gone through after those for dependencies. -/
def remainingRules (c : Configuration) : List Rule :=
  c.checkRules ++ [Rule.adminAddress] ++ [Rule.metricsAddress]

/-- The rules for a configuration, in the order in which validation goes through them. -/
def rulesAlong (c : Configuration) (visited : List (String × BreakerOverride)) : List Rule :=
  policyRules ++ dependencyRules visited ++ c.remainingRules

theorem one_le_iff_ne_zero {n : UInt32} : 1 ≤ n ↔ n ≠ 0 := by
  rw [UInt32.le_iff_toNat_le, ne_eq, ← UInt32.toNat_inj]
  exact Nat.one_le_iff_ne_zero

variable {c : Configuration}

theorem problems_breaker (place : BreakerPlace) {p : BreakerPolicy}
    (there : place.policy? c = some p) : p.problems place.name = c.problemsOf place.rules := by
  have threshold : p.failureThreshold ≠ 0 ↔ (Rule.threshold place).Holds c := by
    simp only [Rule.Holds, there, Option.mem_some_iff, forall_eq', one_le_iff_ne_zero]
  have rate : (0.0 ≤ p.expectedErrorRate ∧ p.expectedErrorRate ≤ 1.0) ↔
      (Rule.errorRate place).Holds c := by
    simp only [Rule.Holds, there, Option.mem_some_iff, forall_eq']
  rw [BreakerPolicy.problems, BreakerPlace.rules, problemsOf_cons, problemsOf_cons,
    Problem.ifNot_congr threshold, Problem.ifNot_congr rate]
  exact congrArg _ (List.append_nil _).symm

theorem problems_retry (place : RetryPlace) :
    (place.policy c).problems place.name = c.problemsOf place.rules := by
  have attempts : (place.policy c).maxAttempts ≠ 0 ↔ (Rule.attempts place).Holds c :=
    one_le_iff_ne_zero.symm
  have multiplier : ((place.policy c).multiplier.isFinite = true ∧
      ¬(place.policy c).multiplier < 1.0) ↔ (Rule.multiplier place).Holds c := by
    refine and_congr_right fun finite => ?_
    exact Double.not_lt_iff (Double.isNaN_eq_false_of_isFinite finite) (by decide)
  rw [RetryPolicy.problems, RetryPlace.rules, problemsOf_cons, problemsOf_cons, problemsOf_cons,
    Problem.ifNot_congr attempts, Problem.ifNot_congr multiplier, List.append_assoc]
  exact congrArg _ (congrArg _ (List.append_nil _).symm)

theorem problems_check {index : Nat} {t : CheckTarget}
    (there : c.health.checks[index]? = some t) :
    t.problems index = c.problemsOf (CheckTarget.rules index) := by
  have name : Text.isBlankText t.name = false ↔ (Rule.checkName index).Holds c := by
    simp only [Rule.Holds, there, Option.mem_some_iff, forall_eq']
  have timeout : t.timeout ≠ 0 ↔ (Rule.checkTimeout index).Holds c := by
    simp only [Rule.Holds, there, Option.mem_some_iff, forall_eq']
    exact UInt64.pos_iff_ne_zero.symm
  rw [CheckTarget.problems, CheckTarget.rules, problemsOf_cons, problemsOf_cons,
    Problem.ifNot_congr name, Problem.ifNot_congr timeout]
  exact congrArg _ (List.append_nil _).symm

/-- The checks from one place on, with the rules for each of them. -/
theorem checkProblems_eq {index : Nat} {targets : List CheckTarget}
    (rest : c.health.checks.drop index = targets) :
    checkProblems index targets =
      c.problemsOf ((List.range' index targets.length).flatMap CheckTarget.rules) := by
  induction targets generalizing index with
  | nil => rfl
  | cons t targets ih =>
    have there : c.health.checks[index]? = some t := by
      rw [← List.head?_drop, rest, List.head?_cons]
    have next : c.health.checks.drop (index + 1) = targets := by
      rw [← List.tail_drop, rest, List.tail_cons]
    rw [checkProblems, List.length_cons, List.range'_succ, List.flatMap_cons, problemsOf_append,
      problems_check there, ih next]

/-- What validation lists about a dependency that is declared. -/
theorem problems_dependency {e : String × BreakerOverride} (mem : e ∈ c.dependencies.entries) :
    (c.breaker.overriddenBy e.2).problems ("dependencies." ++ e.1) =
      c.problemsOf (BreakerPlace.dependency e.1).rules := by
  have there : (BreakerPlace.dependency e.1).policy? c = some (c.breaker.overriddenBy e.2) := by
    rw [BreakerPlace.policy?, NameMap.get?, NameMap.find_of_mem c.dependencies.ascending mem,
      Option.map_some]
  exact problems_breaker _ there

theorem policyProblems_eq :
    c.breaker.problems "circuit_breaker" ++ c.health.breaker.problems "health.breaker" ++
      c.retries.problems "retries" ++ c.health.retry.problems "health.retry" =
      c.problemsOf policyRules := by
  have breaker := problems_breaker (c := c) .general rfl
  have health_breaker := problems_breaker (c := c) .healthChecks rfl
  have retries := problems_retry (c := c) .general
  have health_retry := problems_retry (c := c) .healthChecks
  rw [policyRules, problemsOf_append, problemsOf_append, problemsOf_append, ← breaker,
    ← health_breaker, ← retries, ← health_retry]
  rfl

/-- What stands around the problems of dependencies. -/
theorem problemsAround_eq (ofDependencies : List Problem) :
    c.problemsAround ofDependencies =
      c.problemsOf policyRules ++ ofDependencies ++ c.problemsOf c.remainingRules := by
  have checks : checkProblems 0 c.health.checks = c.problemsOf c.checkRules := by
    rw [checkRules, List.range_eq_range']
    exact checkProblems_eq List.drop_zero
  rw [problemsAround, policyProblems_eq, checks, remainingRules, problemsOf_append,
    problemsOf_append, problemsOf_singleton, problemsOf_singleton, ← List.append_assoc,
    ← List.append_assoc]
  rfl

/-- Validation goes through the rules one by one. -/
theorem problemsAlong_eq {visited : List (String × BreakerOverride)}
    (declared : ∀ e ∈ visited, e ∈ c.dependencies.entries) :
    c.problemsAlong visited = c.problemsOf (c.rulesAlong visited) := by
  have dependencies : c.dependencyProblems visited = c.problemsOf (dependencyRules visited) := by
    rw [dependencyRules, problemsOf_flatMap]
    exact List.flatMap_congr fun e mem => problems_dependency (declared e mem)
  rw [problemsAlong, problemsAround_eq, dependencies, rulesAlong, problemsOf_append,
    problemsOf_append]

/-- A dependency whose policy breaks a rule is declared. -/
theorem exists_of_policy?_ne_none {name : String}
    (there : (BreakerPlace.dependency name).policy? c ≠ none) :
    ∃ e ∈ c.dependencies.entries, e.1 = name := by
  cases found : c.dependencies.get? name with
  | none => exact absurd (by rw [BreakerPlace.policy?, found, Option.map_none]) there
  | some o => exact ⟨(name, o), NameMap.mem_of_find found, rfl⟩

/-- Every rule that is broken is gone through. -/
theorem mem_rulesAlong {visited : List (String × BreakerOverride)}
    (complete : ∀ e ∈ c.dependencies.entries, e ∈ visited) {r : Rule} (broken : ¬r.Holds c) :
    r ∈ c.rulesAlong visited := by
  simp only [rulesAlong, remainingRules, policyRules, dependencyRules, checkRules,
    BreakerPlace.rules, RetryPlace.rules, CheckTarget.rules, List.mem_append, List.mem_flatMap,
    List.mem_cons, List.not_mem_nil, or_false, List.mem_range]
  cases r with
  | threshold place | errorRate place =>
    cases place with
    | general | healthChecks => simp
    | dependency name =>
      have there : (BreakerPlace.dependency name).policy? c ≠ none := fun absent =>
        broken fun p mem => nomatch absent ▸ mem
      obtain ⟨e, mem, rfl⟩ := exists_of_policy?_ne_none there
      simpa using ⟨e.2, complete e mem⟩
  | attempts place | multiplier place | delays place => cases place <;> simp
  | checkName index | checkTimeout index =>
    have there : c.health.checks[index]? ≠ none := fun absent =>
      broken fun t mem => nomatch absent ▸ mem
    have lt : index < c.health.checks.length :=
      Nat.lt_of_not_le fun le => there (List.getElem?_eq_none le)
    simpa using lt
  | adminAddress | metricsAddress => simp

theorem nodup_dependencyRules {visited : List (String × BreakerOverride)}
    (names : (visited.map Prod.fst).Nodup) : (dependencyRules visited).Nodup := by
  refine List.nodup_flatMap.mpr ⟨fun e _ => by simp [BreakerPlace.rules], ?_⟩
  refine (List.pairwise_map.mp names).imp fun ne => ?_
  simp [Function.onFun, BreakerPlace.rules, ne.symm]

theorem nodup_checkRules (c : Configuration) : c.checkRules.Nodup := by
  refine List.nodup_flatMap.mpr ⟨fun i _ => by simp [CheckTarget.rules], ?_⟩
  refine List.nodup_range.imp fun ne => ?_
  simp [Function.onFun, CheckTarget.rules, ne.symm]

theorem stage_of_mem_dependencyRules {visited : List (String × BreakerOverride)} :
    ∀ r ∈ dependencyRules visited, r.stage = 1 := by
  intro r mem
  obtain ⟨e, -, mem⟩ := List.mem_flatMap.mp mem
  obtain rfl | rfl := List.mem_pair.mp mem <;> rfl

theorem stage_of_mem_checkRules : ∀ r ∈ c.checkRules, r.stage = 2 := by
  intro r mem
  obtain ⟨i, -, mem⟩ := List.mem_flatMap.mp mem
  obtain rfl | rfl := List.mem_pair.mp mem <;> rfl

/-- Rules of stages before one, none of them twice. -/
def UpTo (stage : Nat) (rules : List Rule) : Prop :=
  rules.Nodup ∧ ∀ r ∈ rules, r.stage < stage

theorem UpTo.append {stage : Nat} {rules more : List Rule} (upTo : UpTo stage rules)
    (nodup : more.Nodup) (now : ∀ r ∈ more, r.stage = stage) :
    UpTo (stage + 1) (rules ++ more) := by
  refine ⟨List.nodup_append.mpr ⟨upTo.1, nodup, fun r mem r' mem' same => ?_⟩,
    List.forall_mem_append.mpr ⟨fun r mem => ?_, fun r mem => ?_⟩⟩
  · exact (upTo.2 r mem).ne (same ▸ now r' mem')
  · exact (upTo.2 r mem).trans (Nat.lt_succ_self _)
  · exact Nat.lt_succ_of_le (now r mem).le

/-- No rule is gone through twice. -/
theorem nodup_rulesAlong {visited : List (String × BreakerOverride)}
    (names : (visited.map Prod.fst).Nodup) : (c.rulesAlong visited).Nodup := by
  have policies : UpTo 1 policyRules := ⟨by decide, by decide⟩
  have dependencies := policies.append (nodup_dependencyRules names) stage_of_mem_dependencyRules
  have checks := dependencies.append (nodup_checkRules c) stage_of_mem_checkRules
  have admin := checks.append (List.nodup_singleton .adminAddress) (by decide)
  have metrics := admin.append (List.nodup_singleton .metricsAddress) (by decide)
  rw [rulesAlong, remainingRules, ← List.append_assoc, ← List.append_assoc]
  exact metrics.1

/-! ## Exactness -/

theorem mem_problemsOf {rules : List Rule} {p : Problem} :
    p ∈ c.problemsOf rules ↔ ∃ r ∈ rules, ¬r.Holds c ∧ r.problem c = p := by
  simp [problemsOf, and_assoc]

/-- A list with one problem for each broken rule, each with a field of its own, and with no other
problem. -/
structure Reports (c : Configuration) (listed : List Problem) : Prop where
  of_broken : ∀ r : Rule, ¬r.Holds c → r.problem c ∈ listed
  broken_of_mem : ∀ p ∈ listed, ∃! r : Rule, ¬r.Holds c ∧ r.problem c = p
  nodup_fields : (listed.map Problem.field).Nodup

theorem Reports.perm {listed listed' : List Problem} (reports : c.Reports listed)
    (same : listed.Perm listed') : c.Reports listed' where
  of_broken r broken := same.mem_iff.mp (reports.of_broken r broken)
  broken_of_mem p mem := reports.broken_of_mem p (same.mem_iff.mpr mem)
  nodup_fields := (same.map Problem.field).nodup_iff.mp reports.nodup_fields

/-- Nothing is listed exactly if no rule is broken. -/
theorem Reports.eq_nil_iff {listed : List Problem} (reports : c.Reports listed) :
    listed = [] ↔ ∀ r : Rule, r.Holds c := by
  constructor
  · rintro rfl r
    by_contra broken
    exact List.not_mem_nil (reports.of_broken r broken)
  · intro holds
    refine List.eq_nil_iff_forall_not_mem.mpr fun p mem => ?_
    obtain ⟨r, ⟨broken, -⟩, -⟩ := reports.broken_of_mem p mem
    exact broken (holds r)

/-- However the dependencies are visited, there is one problem for each broken rule. -/
theorem reports_problemsAlong {visited : List (String × BreakerOverride)}
    (order : visited.Perm c.dependencies.entries) : c.Reports (c.problemsAlong visited) := by
  have names : (visited.map Prod.fst).Nodup :=
    (order.map Prod.fst).nodup_iff.mpr (NameMap.nodup_names c.dependencies)
  rw [problemsAlong_eq fun e => order.mem_iff.mp]
  constructor
  · intro r broken
    exact mem_problemsOf.mpr ⟨r, mem_rulesAlong (fun e => order.mem_iff.mpr) broken, broken, rfl⟩
  · intro p mem
    obtain ⟨r, -, broken, rfl⟩ := mem_problemsOf.mp mem
    exact ⟨r, ⟨broken, rfl⟩, fun r' ⟨_, same⟩ => Rule.eq_of_field_eq (congrArg Problem.field same)⟩
  · rw [problemsOf, List.map_map]
    exact ((nodup_rulesAlong names).filter _).map fun r r' => Rule.eq_of_field_eq

theorem perm_problemsAround (c : Configuration) {ofDependencies ofDependencies' : List Problem}
    (same : ofDependencies.Perm ofDependencies') :
    (c.problemsAround ofDependencies).Perm (c.problemsAround ofDependencies') :=
  (((same.append_left _).append_right _).append_right _).append_right _

theorem reports_problems (c : Configuration) : c.Reports c.problems :=
  (reports_problemsAlong (List.Perm.refl _)).perm
    (c.perm_problemsAround (List.mergeSort_perm ..).symm)

/-- A verdict on a configuration that accepts it exactly if it breaks no rule, and otherwise lists
one problem for each rule that it breaks. -/
structure Exact (c : Configuration) (verdict : Except (List Problem) Unit) : Prop where
  ok_iff : verdict = .ok () ↔ ∀ r : Rule, r.Holds c
  reports : ∀ listed, verdict = .error listed → c.Reports listed

theorem Reports.exact_verdict {listed : List Problem} (reports : c.Reports listed) :
    c.Exact (Problem.verdict listed) where
  ok_iff := Problem.verdict_eq_ok_iff.trans reports.eq_nil_iff
  reports _ error := (Problem.verdict_eq_error_iff.mp error).2 ▸ reports

theorem dependency?_eq_none_of_mem {r : Rule} (mem : r ∈ policyRules ++ c.remainingRules) :
    r.dependency? = none := by
  refine Rule.dependency?_eq_none_of_stage_ne fun now => ?_
  simp only [remainingRules, List.mem_append, List.mem_singleton] at mem
  obtain policy | (check | rfl) | rfl := mem
  · exact absurd now ((by decide : ∀ r ∈ policyRules, r.stage ≠ 1) r policy)
  · cases now.symm.trans (stage_of_mem_checkRules r check)
  · cases now
  · cases now

/-- A rate that is no number is out of range. -/
theorem not_holds_errorRate_of_isNaN {place : BreakerPlace} {p : BreakerPolicy}
    (there : place.policy? c = some p) (no_number : p.expectedErrorRate.isNaN = true) :
    ¬(Rule.errorRate place).Holds c := fun holds =>
  Double.not_le_of_isNaN no_number (holds p there).1

/-- **Validation is exact.** In whichever order the dependencies are visited, a configuration is
accepted exactly if it breaks no rule, and otherwise the list has one problem for each rule that it
breaks, each with a field of its own; a rate that is no number breaks the rule for it. The list
begins and ends with problems that are about no dependency, the same ones in every order. Between
them it has one block for each dependency, and the blocks follow one another as the dependencies do.
-/
theorem validation_exact (c : Configuration) :
    (∀ visited, visited.Perm c.dependencies.entries → c.Exact (c.validateAlong visited)) ∧
      c.Exact c.validate ∧
      (∀ (place : BreakerPlace) (p : BreakerPolicy), place.policy? c = some p →
        p.expectedErrorRate.isNaN = true → ¬(Rule.errorRate place).Holds c) ∧
      ∃ first last block,
        (∀ p ∈ first ++ last, ∃ r : Rule, r.dependency? = none ∧ r.problem c = p) ∧
        (∀ e ∈ c.dependencies.entries, ∀ p ∈ block e,
          ∃ r : Rule, r.dependency? = some e.1 ∧ r.problem c = p) ∧
        ∀ visited, c.validateAlong visited =
          Problem.verdict (first ++ visited.flatMap block ++ last) := by
  refine ⟨fun visited order => (reports_problemsAlong order).exact_verdict,
    (reports_problems c).exact_verdict, fun place p => not_holds_errorRate_of_isNaN,
    _, _, _, ?_, ?_, fun visited => congrArg Problem.verdict (problemsAround_eq _)⟩
  · intro p mem
    rw [← problemsOf_append] at mem
    obtain ⟨r, at_none, -, rfl⟩ := mem_problemsOf.mp mem
    exact ⟨r, dependency?_eq_none_of_mem at_none, rfl⟩
  · intro e declared p mem
    change p ∈ (c.breaker.overriddenBy e.2).problems ("dependencies." ++ e.1) at mem
    rw [problems_dependency declared] at mem
    obtain ⟨r, among, -, rfl⟩ := mem_problemsOf.mp mem
    obtain rfl | rfl := List.mem_pair.mp among <;> exact ⟨_, rfl, rfl⟩

/-- A configuration that breaks many rules, with two dependencies of which one has the name of the
other as the beginning of its own, the later one visited first. -/
theorem validation_exact_of_many_problems :
    let replica : String × BreakerOverride :=
      ("db.replica", { failureThreshold := some 2, expectedErrorRate := some 1.5 })
    let db : String × BreakerOverride := ("db", { expectedErrorRate := some (0.0 / 0.0) })
    let c : Configuration :=
      { breaker := { failureThreshold := 0 }
        retries := { maxAttempts := 0, multiplier := 0.5 }
        health := { checks := [{ name := " \t", address := "127.0.0.1:5432", timeout := 0 }] }
        dependencies := { entries := [db, replica], ascending := by decide }
        admin := { bindAddress := "localhost" } }
    [replica, db].Perm c.dependencies.entries ∧
      (∃ listed, c.validateAlong [replica, db] = .error listed ∧ c.Reports listed ∧
        listed.map Problem.field =
          ["circuit_breaker.failure_threshold", "retries.max_attempts",
            "retries.backoff_multiplier", "dependencies.db.replica.expected_error_rate",
            "dependencies.db.failure_threshold", "dependencies.db.expected_error_rate",
            "health.checks[0].name", "health.checks[0].timeout_ms", "admin.bind_address"]) ∧
      ¬(Rule.errorRate (.dependency "db")).Holds c := by
  intro replica db c
  have order : [replica, db].Perm c.dependencies.entries := .swap ..
  have listed : c.validateAlong [replica, db] = .error (c.problemsAlong [replica, db]) := by
    decide +kernel
  obtain ⟨exact_along, -, no_number, -⟩ := validation_exact c
  refine ⟨order, ⟨_, listed, (exact_along _ order).reports _ listed, by decide +kernel⟩, ?_⟩
  exact no_number (.dependency "db") _ rfl (by decide)

end Configuration

end Safeguard
