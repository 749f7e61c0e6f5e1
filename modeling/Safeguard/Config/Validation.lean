import Safeguard.Config.Basic
import Safeguard.Net.SocketAddress
import Safeguard.Text.Blank

/-!
# Valid configurations

A configuration that can be read may still make no sense. `Configuration.validate` accepts it or
lists every rule that it breaks, each as a `Problem` with the field it is about and a message. The
dependencies may be visited in any order (`Configuration.validateAlong`); where the order does not
matter, their problems are listed in the order of their fields. All other problems are listed in the
order of the rules. `BreakerPolicy.Valid` and `RetryPolicy.Valid` state the rules of the policies on
their own.
-/

namespace Safeguard

/-- A rule that a configuration breaks. A policy is named by its place in the configuration. -/
inductive Problem
  | thresholdIsZero (place : String)
  | rateOutOfRange (place : String)
  | noAttempts (place : String)
  | multiplierTooSmall (place : String)
  | baseExceedsMaximum (place : String)
  | blankCheckName (index : Nat)
  | zeroCheckTimeout (index : Nat)
  | badAdminAddress (address : String)
  | badMetricsAddress (address : String)
  deriving DecidableEq

namespace Problem

/-- The place of a field of a declared check. -/
def checkField (index : Nat) (name : String) : String :=
  "health.checks[" ++ toString index ++ "]." ++ name

/-- The field that a problem is about. -/
def field : Problem → String
  | thresholdIsZero place => place ++ ".failure_threshold"
  | rateOutOfRange place => place ++ ".expected_error_rate"
  | noAttempts place => place ++ ".max_attempts"
  | multiplierTooSmall place => place ++ ".backoff_multiplier"
  | baseExceedsMaximum place => place ++ ".base_delay_ms"
  | blankCheckName index => checkField index "name"
  | zeroCheckTimeout index => checkField index "timeout_ms"
  | badAdminAddress _ => "admin.bind_address"
  | badMetricsAddress _ => "observability.metrics_address"

/-- What is wrong with the field. -/
def message : Problem → String
  | thresholdIsZero _ => "must be at least 1"
  | rateOutOfRange _ => "must be between 0.0 and 1.0"
  | noAttempts _ => "must be at least 1"
  | multiplierTooSmall _ => "must be a finite number >= 1.0"
  | baseExceedsMaximum _ => "must not exceed max_delay_ms"
  | blankCheckName _ => "must not be empty"
  | zeroCheckTimeout _ => "must be greater than 0"
  | badAdminAddress address => "'" ++ address ++ "' is not a socket address"
  | badMetricsAddress address => "'" ++ address ++ "' is not a socket address"

/-- A problem in one line. -/
def text (p : Problem) : String := p.field ++ ": " ++ p.message

end Problem

/-! ## Policies -/

/-- A breaker that opens after at least one failure, and a rate that is one. -/
abbrev BreakerPolicy.Valid (p : BreakerPolicy) : Prop :=
  1 ≤ p.failureThreshold.toNat ∧ 0.0 ≤ p.expectedErrorRate ∧ p.expectedErrorRate ≤ 1.0

/-- At least one attempt, waits that do not shrink, and a first wait within the bound. -/
abbrev RetryPolicy.Valid (p : RetryPolicy) : Prop :=
  1 ≤ p.maxAttempts.toNat ∧ (p.multiplier.isFinite = true ∧ ¬p.multiplier < 1.0) ∧
    p.baseDelay ≤ p.maxDelay

/-- A problem, if a rule is broken. -/
def Problem.ifNot (rule : Prop) [Decidable rule] (problem : Problem) : List Problem :=
  if rule then [] else [problem]

/-- The rules that the policy of the breakers at a place breaks. -/
def BreakerPolicy.problems (place : String) (p : BreakerPolicy) : List Problem :=
  Problem.ifNot (p.failureThreshold ≠ 0) (.thresholdIsZero place) ++
    Problem.ifNot (0.0 ≤ p.expectedErrorRate ∧ p.expectedErrorRate ≤ 1.0) (.rateOutOfRange place)

/-- The rules that the retry policy at a place breaks. -/
def RetryPolicy.problems (place : String) (p : RetryPolicy) : List Problem :=
  Problem.ifNot (p.maxAttempts ≠ 0) (.noAttempts place) ++
    Problem.ifNot (p.multiplier.isFinite = true ∧ ¬p.multiplier < 1.0)
      (.multiplierTooSmall place) ++
    Problem.ifNot (p.baseDelay ≤ p.maxDelay) (.baseExceedsMaximum place)

/-- The rules that a declared check breaks. -/
def CheckTarget.problems (index : Nat) (t : CheckTarget) : List Problem :=
  Problem.ifNot (Text.isBlankText t.name = false) (.blankCheckName index) ++
    Problem.ifNot (t.timeout ≠ 0) (.zeroCheckTimeout index)

/-! ## The whole configuration -/

namespace Configuration

/-- The policy that the breakers of a dependency get. -/
def policyFor (c : Configuration) (name : String) : BreakerPolicy :=
  match c.dependencies.get? name with
  | some o => c.breaker.overriddenBy o
  | none => c.breaker

/-- The rules that the policies of dependencies break, one dependency after the other. -/
def dependencyProblems (c : Configuration) (visited : List (String × BreakerOverride)) :
    List Problem :=
  visited.flatMap fun (name, o) =>
    (c.breaker.overriddenBy o).problems ("dependencies." ++ name)

/-- The rules that declared checks break. -/
def checkProblems : (index : Nat) → List CheckTarget → List Problem
  | _, [] => []
  | index, t :: rest => t.problems index ++ checkProblems (index + 1) rest

/-- Every rule that a configuration breaks, given those that its dependencies break. -/
def problemsAround (c : Configuration) (ofDependencies : List Problem) : List Problem :=
  c.breaker.problems "circuit_breaker" ++ c.health.breaker.problems "health.breaker" ++
    c.retries.problems "retries" ++ c.health.retry.problems "health.retry" ++
    ofDependencies ++ checkProblems 0 c.health.checks ++
    Problem.ifNot (c.admin.enabled = true → SocketAddress.isValid c.admin.bindAddress = true)
      (.badAdminAddress c.admin.bindAddress) ++
    Problem.ifNot (c.observability.metricsEnabled = true →
        SocketAddress.isValid c.observability.metricsAddress = true)
      (.badMetricsAddress c.observability.metricsAddress)

/-- Every rule that a configuration breaks, if its dependencies are visited in this order. -/
def problemsAlong (c : Configuration) (visited : List (String × BreakerOverride)) :
    List Problem :=
  c.problemsAround (c.dependencyProblems visited)

/-- Every rule that a configuration breaks, with those of dependencies in the order of the
fields. -/
def problems (c : Configuration) : List Problem :=
  c.problemsAround
    ((c.dependencyProblems c.dependencies.entries).mergeSort fun a b => a.field ≤ b.field)

end Configuration

/-- Nothing is wrong, or this is. -/
def Problem.verdict (problems : List Problem) : Except (List Problem) Unit :=
  if problems.isEmpty then .ok () else .error problems

namespace Configuration

/-- Checks a configuration against every rule, visiting its dependencies in this order. -/
def validateAlong (c : Configuration) (visited : List (String × BreakerOverride)) :
    Except (List Problem) Unit :=
  Problem.verdict (c.problemsAlong visited)

/-- Checks a configuration against every rule. -/
def validate (c : Configuration) : Except (List Problem) Unit := Problem.verdict c.problems

end Configuration

end Safeguard
