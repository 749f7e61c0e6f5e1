import Safeguard.Call.Basic
import Safeguard.Config.BreakerPolicy
import Safeguard.NameMap

/-!
# Registries

A `Registry` owns one breaker per dependency. A breaker is created at the first call of its name
and stays; its policy is the one asked for then, or else the default policy with what is set for
that name. Every operation by name leaves the breakers of all other names alone, and resetting or
opening a breaker that does not exist creates none.
-/

namespace Safeguard

/-- Breakers by the names of their dependencies. -/
structure Registry where
  defaults : BreakerPolicy := {}
  /-- What single dependencies change in the default policy. -/
  overrides : NameMap BreakerOverride := .empty
  breakers : NameMap Breaker := .empty

namespace Registry

variable {α : Type}

/-- The policy that a new breaker of a name gets if none is asked for. -/
def policyFor (r : Registry) (name : String) : BreakerPolicy :=
  match r.overrides.get? name with
  | some o => r.defaults.overriddenBy o
  | none => r.defaults

/-- The breaker of a name, if there is one. -/
def get? (r : Registry) (name : String) : Option Breaker := r.breakers.get? name

/-- The registry with one breaker put in. -/
def put (r : Registry) (name : String) (b : Breaker) : Registry :=
  { r with breakers := r.breakers.insert name b }

/-- The breaker of a name, created if there is none yet, with the policy asked for. -/
def getOrCreate (r : Registry) (clock : Clock) (name : String) (policy : Option BreakerPolicy) :
    Breaker × Registry × List Notice :=
  match r.get? name with
  | some b => (b, r, [])
  | none =>
    let policy := policy.getD (r.policyFor name)
    let b := Breaker.create name policy clock
    (b, r.put name b,
      [.log (.breakerCreated name policy.failureThreshold policy.recoveryTimeout)])

/-- Asks the breaker of a name, created if there is none yet, to let a call through. -/
def ask (r : Registry) (clock : Clock) (name : String) (policy : Option BreakerPolicy) :
    Admission × Registry × List Notice :=
  let (b, r, created) := r.getOrCreate clock name policy
  let (admission, b, notices) := b.ask clock.now
  (admission, r.put name b, created ++ notices)

/-- Ends a call through the breaker of a name. -/
def settle (r : Registry) (now : Nat) (name : String) (reply : CallReply α) :
    Registry × List Notice :=
  match r.get? name with
  | some b =>
    let (b, notices) := b.settle now reply
    (r.put name b, notices)
  | none => (r, [])

/-- Takes back a permit of a call that never settled. -/
def abandon (r : Registry) (name : String) (permit : Permit) : Registry :=
  match r.get? name with
  | some b => r.put name (b.abandon permit)
  | none => r

/-- A whole call through the breaker of a name, created if there is none yet. -/
def perform (r : Registry) (clock : Clock) (name : String) (policy : Option BreakerPolicy)
    (limit : Option Nat) (operation : Operation (Reply α)) : Run (CallReply α) × Registry :=
  let (b, r, created) := r.getOrCreate clock name policy
  let (run, b) := b.perform clock.now limit operation
  ({ run with notices := Notice.atInstant clock.now created ++ run.notices }, r.put name b)

/-- Resets the breaker of a name; whether there is one. -/
def reset (r : Registry) (name : String) : Bool × Registry × List Notice :=
  match r.get? name with
  | some b =>
    let (b, notices) := b.reset
    (true, r.put name b, notices)
  | none => (false, r, [])

/-- Opens the breaker of a name; whether there is one. -/
def forceOpen (r : Registry) (now : Nat) (name : String) : Bool × Registry × List Notice :=
  match r.get? name with
  | some b =>
    let (b, notices) := b.forceOpen now
    (true, r.put name b, notices)
  | none => (false, r, [])

/-- What every breaker reports about itself. -/
def statuses (r : Registry) (now : Nat) : NameMap BreakerStatus :=
  r.breakers.map fun _ b => b.status now

/-- The names that have a breaker, in ascending order. -/
def names (r : Registry) : List String := r.breakers.names

/-- The number of breakers. -/
def size (r : Registry) : Nat := r.breakers.size

/-- Whether there is no breaker. -/
def isEmpty (r : Registry) : Bool := r.breakers.entries.isEmpty

/-! ## Putting a breaker in -/

@[simp] theorem get?_put_self (r : Registry) (name : String) (b : Breaker) :
    (r.put name b).get? name = some b := NameMap.get?_insert_self _ _ _

theorem get?_put_ne (r : Registry) {name other : String} (h : other ≠ name) (b : Breaker) :
    (r.put name b).get? other = r.get? other := NameMap.get?_insert_ne _ h _

theorem put_put (r : Registry) (name : String) (b old : Breaker) :
    (r.put name old).put name b = r.put name b := by
  simp only [put, NameMap.insert_insert]

@[simp] theorem policyFor_put (r : Registry) (name other : String) (b : Breaker) :
    (r.put name b).policyFor other = r.policyFor other := rfl

/-! ## Creating a breaker -/

/-- A breaker that exists is given as it is, whatever policy is asked for. -/
theorem getOrCreate_of_get? {r : Registry} {name : String} {b : Breaker}
    (h : r.get? name = some b) (clock : Clock) (policy : Option BreakerPolicy) :
    r.getOrCreate clock name policy = (b, r, []) := by
  simp [getOrCreate, h]

theorem get?_getOrCreate_self (r : Registry) (clock : Clock) (name : String)
    (policy : Option BreakerPolicy) :
    (r.getOrCreate clock name policy).2.1.get? name =
      some (r.getOrCreate clock name policy).1 := by
  unfold getOrCreate
  split
  · assumption
  · simp

/-! ## Breakers of other names -/

theorem get?_getOrCreate_ne (r : Registry) (clock : Clock) {name other : String}
    (h : other ≠ name) (policy : Option BreakerPolicy) :
    (r.getOrCreate clock name policy).2.1.get? other = r.get? other := by
  unfold getOrCreate
  split
  · rfl
  · exact get?_put_ne _ h _

theorem get?_ask_ne (r : Registry) (clock : Clock) {name other : String} (h : other ≠ name)
    (policy : Option BreakerPolicy) :
    (r.ask clock name policy).2.1.get? other = r.get? other := by
  simp only [ask]
  rw [get?_put_ne _ h, get?_getOrCreate_ne _ _ h]

theorem get?_settle_ne (r : Registry) (now : Nat) {name other : String} (h : other ≠ name)
    (reply : CallReply α) : (r.settle now name reply).1.get? other = r.get? other := by
  unfold settle
  split
  · exact get?_put_ne _ h _
  · rfl

theorem get?_abandon_ne (r : Registry) {name other : String} (h : other ≠ name)
    (permit : Permit) : (r.abandon name permit).get? other = r.get? other := by
  unfold abandon
  split
  · exact get?_put_ne _ h _
  · rfl

theorem get?_perform_ne (r : Registry) (clock : Clock) {name other : String} (h : other ≠ name)
    (policy : Option BreakerPolicy) (limit : Option Nat) (operation : Operation (Reply α)) :
    (r.perform clock name policy limit operation).2.get? other = r.get? other := by
  simp only [perform]
  rw [get?_put_ne _ h, get?_getOrCreate_ne _ _ h]

theorem get?_reset_ne (r : Registry) {name other : String} (h : other ≠ name) :
    (r.reset name).2.1.get? other = r.get? other := by
  unfold reset
  split
  · exact get?_put_ne _ h _
  · rfl

theorem get?_forceOpen_ne (r : Registry) (now : Nat) {name other : String} (h : other ≠ name) :
    (r.forceOpen now name).2.1.get? other = r.get? other := by
  unfold forceOpen
  split
  · exact get?_put_ne _ h _
  · rfl

/-! ## Names without a breaker -/

theorem reset_of_get?_eq_none {r : Registry} {name : String} (h : r.get? name = none) :
    r.reset name = (false, r, []) := by
  simp [reset, h]

theorem forceOpen_of_get?_eq_none {r : Registry} {name : String} (h : r.get? name = none)
    (now : Nat) : r.forceOpen now name = (false, r, []) := by
  simp [forceOpen, h]

end Registry

end Safeguard
