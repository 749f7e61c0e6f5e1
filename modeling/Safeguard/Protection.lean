import Safeguard.Registry

/-!
# Protected dependencies

A `Protection` is declared where calls to a dependency are made: its name, and what this place
changes in the policy of its breaker. What it changes counts only if the call is the first one of
that name.
-/

namespace Safeguard

/-- How the calls to a dependency are protected. -/
structure Protection where
  dependency : String
  change : Option BreakerOverride := none

namespace Protection

/-- The policy that a breaker is created with, if the protection changes it. -/
def policy (p : Protection) (r : Registry) : Option BreakerPolicy :=
  (p.change.filter fun o => !o.isEmpty).map (r.policyFor p.dependency).overriddenBy

/-- A whole protected call. -/
def call {α : Type} (p : Protection) (r : Registry) (clock : Clock)
    (operation : Operation (Reply α)) : Run (CallReply α) × Registry :=
  r.perform clock p.dependency (p.policy r) none operation

end Protection

end Safeguard
