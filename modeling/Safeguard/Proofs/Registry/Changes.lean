import Mathlib.Logic.Relation
import Safeguard.Call.InFlight

/-!
# What the operations of a registry do

Every operation of a registry, and every step of a call through one of its breakers, does one of
two things to the registry: it changes a breaker that exists by operations of that breaker
(`Breaker.Follows`), which keep its name and policy, or it creates the breaker that it asks for
(`Registry.Becomes`). What it answers and what it does to that
breaker depend on the registry only through the breaker and the policy that a new one would get:
registries that are `Alike` in both stay alike, and answer alike. The breakers of other names stay
as they are.
-/

namespace Safeguard

namespace Breaker

/-! ## Operations of a breaker -/

/-- A breaker and what one of its operations makes of it. -/
inductive Operates (b : Breaker) : Breaker → Prop
  | ask (now : Nat) : Operates b (b.ask now).2.1
  | succeed : Operates b b.succeed.1
  | fail (now : Nat) : Operates b (b.fail now).1
  | abandon (permit : Permit) : Operates b (b.abandon permit)
  | reset : Operates b b.reset.1
  | forceOpen (now : Nat) : Operates b (b.forceOpen now).1

/-- A breaker `b'` is what operations make of `b`, one after the other. -/
def Follows (b' b : Breaker) : Prop := Relation.ReflTransGen Operates b b'

theorem Operates.sameGuard {b b' : Breaker} (h : Operates b b') : SameGuard b' b := by
  cases h with
  | ask now => exact sameGuard_ask b now
  | succeed => exact sameGuard_succeed b
  | fail now => exact sameGuard_fail b now
  | abandon permit => exact sameGuard_abandon b permit
  | reset => exact sameGuard_reset b
  | forceOpen now => exact sameGuard_forceOpen b now

theorem Operates.follows {b b' : Breaker} (h : Operates b b') : Follows b' b := .single h

namespace Follows

theorem refl (b : Breaker) : Follows b b := Relation.ReflTransGen.refl

theorem trans {a b c : Breaker} (h : Follows a b) (h' : Follows b c) : Follows a c :=
  Relation.ReflTransGen.trans h' h

/-- Operations change neither the name nor the policy. -/
theorem sameGuard {b b' : Breaker} (h : Follows b' b) : SameGuard b' b := by
  induction h with
  | refl => exact .refl b
  | tail _ last ih => exact last.sameGuard.trans ih

/-- What holds before and is kept by every operation holds after operations. -/
theorem keeps {P : Breaker → Prop} (operates : ∀ {b b'}, Operates b b' → P b → P b')
    {b b' : Breaker} (h : Follows b' b) (holds : P b) : P b' := by
  induction h with
  | refl => exact holds
  | tail _ last ih => exact operates last ih

theorem settle {α : Type} (b : Breaker) (now : Nat) (reply : CallReply α) :
    Follows (b.settle now reply).1 b := by
  unfold Breaker.settle
  split
  · exact Operates.succeed.follows
  · exact (Operates.fail now).follows
  · exact (Operates.fail now).follows

end Follows

end Breaker

open Breaker

namespace Registry

variable {α : Type} {r r' r'' : Registry}

/-! ## Breakers that exist, and new ones -/

/-- What an operation leaves of a registry. `asked` is the name of the breaker that it asks for,
and the policy that a new one gets. -/
structure Becomes (r : Registry) (asked : Option (String × BreakerPolicy)) (r' : Registry) :
    Prop where
  defaults : r'.defaults = r.defaults
  overrides : r'.overrides = r.overrides
  changed : ∀ {name b}, r.get? name = some b → ∃ b', r'.get? name = some b' ∧ Follows b' b
  created : ∀ {name b}, r.get? name = none → r'.get? name = some b →
    ∃ policy clock, asked = some (name, policy) ∧ Follows b (.create name policy clock)
  present : ∀ {name policy}, asked = some (name, policy) → (r'.get? name).isSome = true

namespace Becomes

theorem refl (r : Registry) : r.Becomes none r where
  defaults := rfl
  overrides := rfl
  changed found := ⟨_, found, .refl _⟩
  created missing found := absurd (missing.symm.trans found) nofun
  present := nofun

/-- A breaker that exists keeps its name, its policy and its anchor. -/
theorem kept {asked : Option (String × BreakerPolicy)} (h : r.Becomes asked r') {name : String}
    {b : Breaker} (found : r.get? name = some b) :
    ∃ b', r'.get? name = some b' ∧ SameGuard b' b := by
  obtain ⟨b', found', follows⟩ := h.changed found
  exact ⟨b', found', follows.sameGuard⟩

/-- A breaker that is new has the name and the policy that were asked for. -/
theorem fresh {asked : Option (String × BreakerPolicy)} (h : r.Becomes asked r') {name : String}
    {b : Breaker} (missing : r.get? name = none) (found : r'.get? name = some b) :
    asked = some (name, b.policy) ∧ b.name = name := by
  obtain ⟨policy, clock, asked, follows⟩ := h.created missing found
  obtain ⟨named, same, -⟩ := follows.sameGuard
  rw [same]
  exact ⟨asked, named⟩

/-- Further operations that ask for no breaker change nothing about what was asked for. -/
theorem trans {asked : Option (String × BreakerPolicy)} (first : r.Becomes asked r')
    (rest : r'.Becomes none r'') : r.Becomes asked r'' where
  defaults := rest.defaults.trans first.defaults
  overrides := rest.overrides.trans first.overrides
  changed found := by
    obtain ⟨b', found', follows⟩ := first.changed found
    obtain ⟨b'', found'', follows'⟩ := rest.changed found'
    exact ⟨b'', found'', follows'.trans follows⟩
  created {name b} missing found := by
    cases between : r'.get? name with
    | none => exact absurd (rest.fresh between found).1 nofun
    | some b' =>
      obtain ⟨b'', found'', follows'⟩ := rest.changed between
      obtain rfl : b = b'' := Option.some.inj (found.symm.trans found'')
      obtain ⟨policy, clock, asked, follows⟩ := first.created missing between
      exact ⟨policy, clock, asked, follows'.trans follows⟩
  present asked := by
    obtain ⟨b', found⟩ := Option.isSome_iff_exists.1 (first.present asked)
    obtain ⟨b'', found', -⟩ := rest.changed found
    rw [found', Option.isSome_some]

/-- The policy that a new breaker gets stays the same. -/
theorem policyFor {asked : Option (String × BreakerPolicy)} (h : r.Becomes asked r')
    (name : String) : r'.policyFor name = r.policyFor name := by
  simp only [Registry.policyFor, h.defaults, h.overrides]

/-- A breaker that exists is changed. -/
theorem put {name : String} {b b' : Breaker} (found : r.get? name = some b)
    (follows : Follows b' b) : r.Becomes none (r.put name b') where
  defaults := rfl
  overrides := rfl
  changed {other c} present := by
    by_cases eq : other = name
    · subst eq
      obtain rfl : c = b := Option.some.inj (present.symm.trans found)
      exact ⟨b', get?_put_self _ _ _, follows⟩
    · exact ⟨c, (get?_put_ne r eq b').trans present, .refl c⟩
  created {other c} missing present := by
    by_cases eq : other = name
    · subst eq
      exact absurd (missing.symm.trans found) nofun
    · exact absurd (missing.symm.trans ((get?_put_ne r eq b').symm.trans present)) nofun
  present := nofun

/-- A breaker is created. -/
theorem create {name : String} (missing : r.get? name = none) (policy : BreakerPolicy)
    (clock : Clock) :
    r.Becomes (some (name, policy)) (r.put name (.create name policy clock)) where
  defaults := rfl
  overrides := rfl
  changed {other c} present := by
    by_cases eq : other = name
    · subst eq
      exact absurd (missing.symm.trans present) nofun
    · exact ⟨c, (get?_put_ne r eq _).trans present, .refl c⟩
  created {other c} absent present := by
    by_cases eq : other = name
    · subst eq
      rw [get?_put_self, Option.some.injEq] at present
      subst present
      exact ⟨policy, clock, rfl, .refl _⟩
    · exact absurd (absent.symm.trans ((get?_put_ne r eq _).symm.trans present)) nofun
  present asked := by
    cases asked
    rw [get?_put_self, Option.isSome_some]

/-- A breaker that exists is asked for. -/
theorem asked {name : String} {b : Breaker} (found : r.get? name = some b)
    (policy : BreakerPolicy) : r.Becomes (some (name, policy)) r where
  defaults := rfl
  overrides := rfl
  changed found := ⟨_, found, .refl _⟩
  created missing present := absurd (missing.symm.trans present) nofun
  present eq := by
    cases eq
    rw [found, Option.isSome_some]

end Becomes

/-- Every breaker is called as the registry calls it. -/
def Named (r : Registry) : Prop := ∀ {name b}, r.get? name = some b → b.name = name

theorem Becomes.named {asked : Option (String × BreakerPolicy)} (h : r.Becomes asked r')
    (named : r.Named) : r'.Named := by
  intro name b found
  cases before : r.get? name with
  | none => exact (h.fresh before found).2
  | some b₀ =>
    obtain ⟨b', found', guard⟩ := h.kept before
    obtain rfl : b = b' := Option.some.inj (found.symm.trans found')
    exact guard.1.trans (named before)

/-! ### The operations -/

theorem becomes_getOrCreate (r : Registry) (clock : Clock) (name : String)
    (policy : Option BreakerPolicy) :
    r.Becomes (some (name, policy.getD (r.policyFor name)))
      (r.getOrCreate clock name policy).2.1 := by
  unfold getOrCreate
  split
  · rename_i found
    exact .asked found _
  · rename_i missing
    exact .create missing _ clock

theorem becomes_ask (r : Registry) (clock : Clock) (name : String)
    (policy : Option BreakerPolicy) :
    r.Becomes (some (name, policy.getD (r.policyFor name))) (r.ask clock name policy).2.1 :=
  (r.becomes_getOrCreate clock name policy).trans
    (.put (r.get?_getOrCreate_self clock name policy) (Operates.ask _).follows)

theorem becomes_settle (r : Registry) (now : Nat) (name : String) (reply : CallReply α) :
    r.Becomes none (r.settle now name reply).1 := by
  unfold settle
  split
  · rename_i found
    exact .put found (.settle _ _ _)
  · exact .refl r

theorem becomes_abandon (r : Registry) (name : String) (permit : Permit) :
    r.Becomes none (r.abandon name permit) := by
  unfold abandon
  split
  · rename_i found
    exact .put found (Operates.abandon _).follows
  · exact .refl r

theorem becomes_reset (r : Registry) (name : String) : r.Becomes none (r.reset name).2.1 := by
  unfold reset
  split
  · rename_i found
    exact .put found Operates.reset.follows
  · exact .refl r

theorem becomes_forceOpen (r : Registry) (now : Nat) (name : String) :
    r.Becomes none (r.forceOpen now name).2.1 := by
  unfold forceOpen
  split
  · rename_i found
    exact .put found (Operates.forceOpen _).follows
  · exact .refl r

/-! ## What is told of an arrival -/

theorem events_getOrCreate (r : Registry) (clock : Clock) (name : String)
    (policy : Option BreakerPolicy) :
    Notice.events (r.getOrCreate clock name policy).2.2 = [] := by
  unfold getOrCreate
  split <;> rfl

/-- A call that arrives is told of as its breaker does. -/
theorem events_ask (r : Registry) (clock : Clock) (name : String)
    (policy : Option BreakerPolicy) :
    Notice.events (r.ask clock name policy).2.2 =
      Notice.events ((r.getOrCreate clock name policy).1.ask clock.now).2.2 := by
  rw [ask, Notice.events_append, events_getOrCreate, List.nil_append]

/-! ## One name of two registries -/

/-- Two registries with the same breaker of a name, or that would create it alike. -/
structure Alike (name : String) (r r' : Registry) : Prop where
  breaker : r.get? name = r'.get? name
  policy : r.policyFor name = r'.policyFor name

/-- Two results that are the same, with registries that are alike. -/
def AlikeResults {β γ : Type} (name : String) (x y : β × Registry × γ) : Prop :=
  x.1 = y.1 ∧ Alike name x.2.1 y.2.1 ∧ x.2.2 = y.2.2

namespace Alike

variable {name : String}

theorem refl (name : String) (r : Registry) : Alike name r r := ⟨rfl, rfl⟩

theorem trans (first : Alike name r r') (rest : Alike name r' r'') : Alike name r r'' :=
  ⟨first.breaker.trans rest.breaker, first.policy.trans rest.policy⟩

theorem put (same : Alike name r r') (b : Breaker) : Alike name (r.put name b) (r'.put name b) :=
  ⟨by rw [get?_put_self, get?_put_self], same.policy⟩

section Operations

variable (same : Alike name r r')

include same

theorem getOrCreate (clock : Clock) (policy : Option BreakerPolicy) :
    AlikeResults name (r.getOrCreate clock name policy) (r'.getOrCreate clock name policy) := by
  unfold Registry.getOrCreate
  rw [same.breaker, same.policy]
  split
  · exact ⟨rfl, same, rfl⟩
  · exact ⟨rfl, same.put _, rfl⟩

theorem ask (clock : Clock) (policy : Option BreakerPolicy) :
    AlikeResults name (r.ask clock name policy) (r'.ask clock name policy) := by
  obtain ⟨breaker, registry, notices⟩ := same.getOrCreate clock policy
  simp only [Registry.ask, breaker, notices]
  exact ⟨rfl, registry.put _, rfl⟩

theorem settle (now : Nat) (reply : CallReply α) :
    Alike name (r.settle now name reply).1 (r'.settle now name reply).1 ∧
      (r.settle now name reply).2 = (r'.settle now name reply).2 := by
  unfold Registry.settle
  rw [same.breaker]
  split
  · exact ⟨same.put _, rfl⟩
  · exact ⟨same, rfl⟩

theorem abandon (permit : Permit) :
    Alike name (r.abandon name permit) (r'.abandon name permit) := by
  unfold Registry.abandon
  rw [same.breaker]
  split
  · exact same.put _
  · exact same

theorem reset : AlikeResults name (r.reset name) (r'.reset name) := by
  unfold Registry.reset
  rw [same.breaker]
  split
  · exact ⟨rfl, same.put _, rfl⟩
  · exact ⟨rfl, same, rfl⟩

theorem forceOpen (now : Nat) :
    AlikeResults name (r.forceOpen now name) (r'.forceOpen now name) := by
  unfold Registry.forceOpen
  rw [same.breaker]
  split
  · exact ⟨rfl, same.put _, rfl⟩
  · exact ⟨rfl, same, rfl⟩

theorem status (now : Nat) : (r.statuses now).get? name = (r'.statuses now).get? name := by
  have breaker : r.breakers.get? name = r'.breakers.get? name := same.breaker
  simp only [statuses, NameMap.get?_map, breaker]

end Operations

/-! ### Operations on other breakers -/

section Others

variable {other : String} (ne : name ≠ other) (r : Registry)

include ne

theorem getOrCreate_ne (clock : Clock) (policy : Option BreakerPolicy) :
    Alike name (r.getOrCreate clock other policy).2.1 r :=
  ⟨r.get?_getOrCreate_ne clock ne policy, (r.becomes_getOrCreate clock other policy).policyFor name⟩

theorem ask_ne (clock : Clock) (policy : Option BreakerPolicy) :
    Alike name (r.ask clock other policy).2.1 r :=
  ⟨r.get?_ask_ne clock ne policy, (r.becomes_ask clock other policy).policyFor name⟩

theorem settle_ne (now : Nat) (reply : CallReply α) :
    Alike name (r.settle now other reply).1 r :=
  ⟨r.get?_settle_ne now ne reply, (r.becomes_settle now other reply).policyFor name⟩

theorem abandon_ne (permit : Permit) : Alike name (r.abandon other permit) r :=
  ⟨r.get?_abandon_ne ne permit, (r.becomes_abandon other permit).policyFor name⟩

theorem reset_ne : Alike name (r.reset other).2.1 r :=
  ⟨r.get?_reset_ne ne, (r.becomes_reset other).policyFor name⟩

theorem forceOpen_ne (now : Nat) : Alike name (r.forceOpen now other).2.1 r :=
  ⟨r.get?_forceOpen_ne now ne, (r.becomes_forceOpen now other).policyFor name⟩

end Others

end Alike

end Registry

/-! ## Calls on their way -/

namespace InFlight

open Registry

variable {ρ α : Type}

/-- What a poll finds of the operation has nothing to do with the registry; a call that goes on
is still a call to its dependency. -/
theorem dependency_advance {c c' : InFlight α} {now : Nat}
    (found : (c.advance now).result = .inr c') : c'.dependency = c.dependency := by
  unfold advance at found
  split at found
  · split at found
    · cases found
    · rw [← Sum.inr.inj found]
  · dsimp only [Polled.map] at found
    split at found
    · cases found
    · rw [← Sum.inr.inj found]

/-- A poll either leaves the call on its way and the registry as it is, or ends the call. -/
theorem poll_cases (c : InFlight α) (now : Nat) :
    (∃ c', c'.dependency = c.dependency ∧
      ∀ r, c.poll r now = (.pending c', r, (c.advance now).notices)) ∨
    ∃ reply, ∀ r, c.poll r now =
      (.ended reply (c.invocations ++ (c.advance now).invocations),
        (r.settle now c.dependency reply).1,
        (c.advance now).notices ++ (r.settle now c.dependency reply).2) := by
  cases result : (c.advance now).result with
  | inl reply => exact .inr ⟨.ofReply reply, fun r => by simp only [poll, result, conclude]⟩
  | inr c' =>
    cases overdue : c.overdue? now with
    | none =>
      exact .inl ⟨c', dependency_advance result, fun r => by simp only [poll, result, overdue]⟩
    | some limit =>
      exact .inr ⟨.error (.timedOut c.dependency limit), fun r => by
        simp only [poll, result, overdue, conclude]⟩

theorem becomes_poll (c : InFlight α) (r : Registry) (now : Nat) :
    r.Becomes none (c.poll r now).2.1 := by
  obtain ⟨c', -, eq⟩ | ⟨reply, eq⟩ := c.poll_cases now
  · rw [eq]
    exact .refl r
  · rw [eq]
    exact r.becomes_settle now c.dependency reply

theorem dependency_poll {c c' : InFlight α} {r : Registry} {now : Nat}
    (pending : (c.poll r now).1 = .pending c') : c'.dependency = c.dependency := by
  obtain ⟨c'', same, eq⟩ | ⟨reply, eq⟩ := c.poll_cases now
  · rw [eq] at pending
    cases pending
    exact same
  · rw [eq] at pending
    cases pending

theorem becomes_drop (c : InFlight α) (r : Registry) : r.Becomes none (c.drop r) :=
  r.becomes_abandon c.dependency c.permit

/-- A call that is let through is on its way at once. -/
def admitted (clock : Clock) (name : String) (limit : Option Nat) (retry : Option Retry)
    (permit : Permit) : InFlight α :=
  { dependency := name, permit, begun := clock.now, limit
    retries := retry.map fun retry => (retry, retry.start clock.now)
    invocations := [clock.now] }

section Start

variable (r : Registry) (clock : Clock) (name : String) (policy : Option BreakerPolicy)
  (limit : Option Nat) (retry : Option Retry)

theorem start_of_rejected {retryIn : Option Nat}
    (turned_away : (r.ask clock name policy).1 = .rejected retryIn) :
    start (α := α) r clock name policy limit retry =
      (.ended (.error (.rejected name retryIn)) [], (r.ask clock name policy).2) := by
  rcases eq : r.ask clock name policy with ⟨admission, r', notices⟩
  rw [eq] at turned_away
  cases turned_away
  simp only [start, eq]

theorem start_of_admitted {permit : Permit}
    (let_through : (r.ask clock name policy).1 = .admitted permit) :
    start (α := α) r clock name policy limit retry =
      let found := (admitted clock name limit retry permit).poll (r.ask clock name policy).2.1
        clock.now
      (found.1, found.2.1, (r.ask clock name policy).2.2 ++ found.2.2) := by
  rcases eq : r.ask clock name policy with ⟨admission, r', notices⟩
  rw [eq] at let_through
  cases let_through
  simp only [start, eq, admitted]

theorem becomes_start :
    r.Becomes (some (name, policy.getD (r.policyFor name)))
      (start (α := α) r clock name policy limit retry).2.1 := by
  have asked := r.becomes_ask clock name policy
  cases answer : (r.ask clock name policy).1 with
  | rejected retryIn => rwa [start_of_rejected r clock name policy limit retry answer]
  | admitted permit =>
    rw [start_of_admitted r clock name policy limit retry answer]
    exact asked.trans (becomes_poll _ _ _)

theorem dependency_start {c : InFlight α}
    (pending : (start r clock name policy limit retry).1 = .pending c) : c.dependency = name := by
  cases answer : (r.ask clock name policy).1 with
  | rejected retryIn =>
    rw [start_of_rejected r clock name policy limit retry answer] at pending
    cases pending
  | admitted permit =>
    rw [start_of_admitted r clock name policy limit retry answer] at pending
    exact dependency_poll pending

end Start

/-! ### One name of two registries -/

section Alike

variable {name : String} {r r' : Registry}

theorem alike_poll (same : Registry.Alike name r r') {c : InFlight α} (own : c.dependency = name)
    (now : Nat) : AlikeResults name (c.poll r now) (c.poll r' now) := by
  obtain ⟨c', -, eq⟩ | ⟨reply, eq⟩ := c.poll_cases now
  · rw [eq, eq]
    exact ⟨rfl, same, rfl⟩
  · obtain ⟨registry, ending⟩ := same.settle now reply
    rw [eq, eq, own, ending]
    exact ⟨rfl, registry, rfl⟩

theorem alike_drop (same : Registry.Alike name r r') {c : InFlight α} (own : c.dependency = name) :
    Registry.Alike name (c.drop r) (c.drop r') := by
  rw [drop, drop, own]
  exact same.abandon c.permit

theorem alike_start (same : Registry.Alike name r r') (clock : Clock)
    (policy : Option BreakerPolicy) (limit : Option Nat) (retry : Option Retry) :
    AlikeResults name (start (α := α) r clock name policy limit retry)
      (start r' clock name policy limit retry) := by
  obtain ⟨admission, registry, notices⟩ := same.ask clock policy
  cases answer : (r.ask clock name policy).1 with
  | rejected retryIn =>
    rw [start_of_rejected r clock name policy limit retry answer,
      start_of_rejected r' clock name policy limit retry (admission ▸ answer)]
    exact ⟨rfl, registry, notices⟩
  | admitted permit =>
    rw [start_of_admitted r clock name policy limit retry answer,
      start_of_admitted r' clock name policy limit retry (admission ▸ answer)]
    obtain ⟨result, registry, further⟩ := alike_poll registry
      (c := admitted (α := α) clock name limit retry permit) rfl clock.now
    exact ⟨result, registry, by simp only [notices, further]⟩

variable {other : String} (ne : name ≠ other)

include ne

theorem alike_poll_ne {c : InFlight α} (own : c.dependency = other) (r : Registry) (now : Nat) :
    Registry.Alike name (c.poll r now).2.1 r := by
  obtain ⟨c', -, eq⟩ | ⟨reply, eq⟩ := c.poll_cases now
  · rw [eq]
    exact .refl name r
  · rw [eq, own]
    exact .settle_ne ne r now reply

theorem alike_drop_ne {c : InFlight α} (own : c.dependency = other) (r : Registry) :
    Registry.Alike name (c.drop r) r := by
  rw [drop, own]
  exact .abandon_ne ne r c.permit

theorem alike_start_ne (r : Registry) (clock : Clock) (policy : Option BreakerPolicy)
    (limit : Option Nat) (retry : Option Retry) :
    Registry.Alike name (start (α := α) r clock other policy limit retry).2.1 r := by
  have asked := Registry.Alike.ask_ne ne r clock policy
  cases answer : (r.ask clock other policy).1 with
  | rejected retryIn => rwa [start_of_rejected r clock other policy limit retry answer]
  | admitted permit =>
    rw [start_of_admitted r clock other policy limit retry answer]
    exact (alike_poll_ne ne rfl _ _).trans asked

end Alike

end InFlight

end Safeguard
