import Mathlib.Logic.Function.Basic
import Safeguard.Proofs.Registry.Changes

/-!
# Registries in use

A `Hub` is a registry with the calls that are on their way through its breakers. It is used by the
names of dependencies: breakers are created and looked up, calls begin, get replies, are polled and
are dropped, and breakers are reset and forced open. Every use is made at a moment that its own
clock shows; nothing relates the clocks of different uses.

* `Hub.becomes_handle` says what a use does to the breakers.
* `Hub.Sound.run` says that breakers and calls stay where they belong: under the names of their
  dependencies.
-/

namespace Safeguard

/-! ## The policy of a new breaker -/

/-- The policy whose fields are those of the first override that sets them, if there are overrides
and one of them does. -/
def BreakerPolicy.layered (p : BreakerPolicy) (first second : Option BreakerOverride) :
    BreakerPolicy where
  failureThreshold :=
    ((first.bind (·.failureThreshold)).or (second.bind (·.failureThreshold))).getD
      p.failureThreshold
  recoveryTimeout :=
    (((first.bind (·.recoveryTimeout)).or (second.bind (·.recoveryTimeout))).map ofMillis).getD
      p.recoveryTimeout
  monitoringPeriod :=
    (((first.bind (·.monitoringPeriod)).or (second.bind (·.monitoringPeriod))).map ofMillis).getD
      p.monitoringPeriod
  expectedErrorRate :=
    ((first.bind (·.expectedErrorRate)).or (second.bind (·.expectedErrorRate))).getD
      p.expectedErrorRate

theorem Registry.policyFor_eq_layered (r : Registry) (name : String) :
    r.policyFor name = r.defaults.layered none (r.overrides.get? name) := by
  unfold Registry.policyFor
  split <;> rename_i found <;> rw [found] <;> rfl

theorem BreakerPolicy.layered_overriddenBy (p : BreakerPolicy) (first : BreakerOverride)
    (second : Option BreakerOverride) :
    (p.layered none second).overriddenBy first = p.layered (some first) second := by
  obtain ⟨threshold, recovery, period, rate⟩ := first
  cases threshold <;> cases recovery <;> cases period <;> cases rate <;> rfl

theorem BreakerOverride.eq_of_isEmpty {o : BreakerOverride} (empty : o.isEmpty = true) :
    o = {} := by
  obtain ⟨threshold, recovery, period, rate⟩ := o
  simp only [isEmpty, Bool.and_eq_true, Option.isNone_iff_eq_none] at empty
  obtain ⟨⟨⟨rfl, rfl⟩, rfl⟩, rfl⟩ := empty
  rfl

/-- An override where a call is protected comes first, and one that sets nothing makes no
difference. -/
theorem Protection.policy_getD (p : Protection) (r : Registry) :
    (p.policy r).getD (r.policyFor p.dependency) =
      r.defaults.layered p.change (r.overrides.get? p.dependency) := by
  obtain ⟨name, change⟩ := p
  rw [Registry.policyFor_eq_layered]
  cases change with
  | none => rfl
  | some o =>
    cases empty : o.isEmpty with
    | true =>
      rw [BreakerOverride.eq_of_isEmpty empty]
      rfl
    | false =>
      rw [Protection.policy, Option.filter_some, if_pos (by simp [empty]), Option.map_some,
        Option.getD_some, Registry.policyFor_eq_layered, BreakerPolicy.layered_overriddenBy]

/-! ## Uses -/

/-- What is done under the name of a dependency. The calls of a name have numbers, in the order in
which they began. -/
inductive Use (α : Type)
  /-- The policy that a new breaker would get is looked up. -/
  | policyFor
  /-- The breaker is created if there is none. -/
  | getOrCreate (policy : Option BreakerPolicy)
  | get
  | status
  /-- A call begins. -/
  | call (policy : Option BreakerPolicy) (limit : Option Nat) (retry : Option Retry)
  /-- A call begins, protected where it is made. -/
  | protect (change : Option BreakerOverride) (retry : Option Retry)
  /-- The operation of a call replies. -/
  | reply (call : Nat) (reply : Reply α)
  | poll (call : Nat)
  | drop (call : Nat)
  | reset
  | forceOpen

namespace Use

variable {α : Type}

/-- The policy that a breaker gets if it does not exist, for a use that creates one: the one that is
given, as a whole, or else the general one for the name. What is set where the call is protected
comes before what is set for the name. -/
def asks (r : Registry) (name : String) : Use α → Option BreakerPolicy
  | getOrCreate policy | call policy _ _ => some (policy.getD (r.policyFor name))
  | protect change _ => some (r.defaults.layered change (r.overrides.get? name))
  | _ => none

/-- What a use tells the one who makes it. -/
inductive Answer (α : Type)
  | policy (policy : BreakerPolicy)
  | breaker (found : Option Breaker)
  | status (status : Option BreakerStatus)
  | call (result : InFlight.Result α)
  /-- Whether there is a breaker. -/
  | known (present : Bool)
  | nothing

end Use

/-- The call that a poll leaves on its way. -/
def InFlight.Result.call? {α : Type} : InFlight.Result α → Option (InFlight α)
  | pending call => some call
  | ended .. => none

/-! ## Hubs -/

/-- A registry in use. -/
structure Hub (α : Type) where
  registry : Registry
  /-- The calls of each name that have begun; none for those that are over. -/
  calls : String → List (Option (InFlight α))

namespace Hub

variable {α : Type}

/-- A use of a name at a moment. -/
structure Step (α : Type) where
  clock : Clock
  name : String
  use : Use α

/-- A hub through which no call is on its way. -/
def start (registry : Registry) : Hub α where
  registry
  calls _ := []

/-- A call that is on its way. -/
def call? (h : Hub α) (name : String) (call : Nat) : Option (InFlight α) :=
  ((h.calls name)[call]?).join

/-- The hub with the calls of a name changed. -/
def withCalls (h : Hub α) (name : String) (calls : List (Option (InFlight α))) : Hub α :=
  { h with calls := Function.update h.calls name calls }

/-- The hub with another registry. -/
def withRegistry (h : Hub α) (registry : Registry) : Hub α := { h with registry }

/-- Puts down what comes of a call that begins. -/
def begun (h : Hub α) (name : String) (found : InFlight.Result α × Registry × List Notice) :
    Use.Answer α × Hub α × List Notice :=
  (.call found.1, (h.withRegistry found.2.1).withCalls name (h.calls name ++ [found.1.call?]),
    found.2.2)

/-- Puts down what a poll finds. -/
def polled (h : Hub α) (name : String) (call : Nat)
    (found : InFlight.Result α × Registry × List Notice) :
    Use.Answer α × Hub α × List Notice :=
  (.call found.1, (h.withRegistry found.2.1).withCalls name ((h.calls name).set call found.1.call?),
    found.2.2)

/-- Goes on with a call that is on its way, if it is. -/
def onCall (h : Hub α) (name : String) (call : Nat)
    (act : InFlight α → Use.Answer α × Hub α × List Notice) :
    Use.Answer α × Hub α × List Notice :=
  match h.call? name call with
  | some c => act c
  | none => (.nothing, h, [])

/-- What a use answers, what it leaves, and what is reported. -/
def handle (h : Hub α) (clock : Clock) (name : String) :
    Use α → Use.Answer α × Hub α × List Notice
  | .policyFor => (.policy (h.registry.policyFor name), h, [])
  | .getOrCreate policy =>
    let (b, registry, notices) := h.registry.getOrCreate clock name policy
    (.breaker (some b), h.withRegistry registry, notices)
  | .get => (.breaker (h.registry.get? name), h, [])
  | .status => (.status ((h.registry.statuses clock.now).get? name), h, [])
  | .call policy limit retry =>
    h.begun name (InFlight.start h.registry clock name policy limit retry)
  | .protect change retry =>
    let p : Protection := { dependency := name, change }
    h.begun name (InFlight.start h.registry clock name (p.policy h.registry) none retry)
  | .reply call reply =>
    h.onCall name call fun c =>
      (.nothing, h.withCalls name ((h.calls name).set call (some (c.finish reply))), [])
  | .poll call => h.onCall name call fun c => h.polled name call (c.poll h.registry clock.now)
  | .drop call =>
    h.onCall name call fun c =>
      (.nothing, (h.withRegistry (c.drop h.registry)).withCalls name ((h.calls name).set call none),
        [])
  | .reset =>
    let (known, registry, notices) := h.registry.reset name
    (.known known, h.withRegistry registry, notices)
  | .forceOpen =>
    let (known, registry, notices) := h.registry.forceOpen clock.now name
    (.known known, h.withRegistry registry, notices)

/-- The hub after a step. -/
def step (h : Hub α) (s : Step α) : Hub α := (h.handle s.clock s.name s.use).2.1

/-- The hub after steps, one after the other. -/
def run (h : Hub α) (steps : List (Step α)) : Hub α := steps.foldl step h

@[simp] theorem calls_withCalls_self (h : Hub α) (name : String)
    (calls : List (Option (InFlight α))) : (h.withCalls name calls).calls name = calls :=
  Function.update_self _ _ _

theorem calls_withCalls_ne (h : Hub α) {name other : String} (ne : other ≠ name)
    (calls : List (Option (InFlight α))) : (h.withCalls name calls).calls other = h.calls other :=
  Function.update_of_ne ne _ _

/-- A call goes on, or there is none that could. -/
theorem onCall_cases (h : Hub α) (name : String) (call : Nat)
    (act : InFlight α → Use.Answer α × Hub α × List Notice) :
    (h.call? name call = none ∧ h.onCall name call act = (.nothing, h, [])) ∨
      ∃ c, h.call? name call = some c ∧ h.onCall name call act = act c := by
  cases on_its_way : h.call? name call with
  | none => exact .inl ⟨rfl, by simp only [onCall, on_its_way]⟩
  | some c => exact .inr ⟨c, rfl, by simp only [onCall, on_its_way]⟩

/-! ## What a use does to the breakers -/

/-- A use changes the breaker of its name and keeps its policy, or creates it with the policy that
it asks for. -/
theorem becomes_handle (h : Hub α) (clock : Clock) (name : String) (use : Use α) :
    h.registry.Becomes ((use.asks h.registry name).map fun policy => (name, policy))
      (h.handle clock name use).2.1.registry := by
  cases use with
  | policyFor | get | status => exact .refl _
  | getOrCreate policy => exact h.registry.becomes_getOrCreate clock name policy
  | call policy limit retry => exact InFlight.becomes_start h.registry clock name policy limit retry
  | protect change retry =>
    have started := InFlight.becomes_start (α := α) h.registry clock name
      (Protection.policy { dependency := name, change } h.registry) none retry
    rwa [Protection.policy_getD] at started
  | reply call reply =>
    obtain ⟨-, eq⟩ | ⟨c, -, eq⟩ := h.onCall_cases name call _ <;> rw [handle, eq] <;> exact .refl _
  | poll call =>
    obtain ⟨-, eq⟩ | ⟨c, -, eq⟩ := h.onCall_cases name call _ <;> rw [handle, eq]
    · exact .refl _
    · exact c.becomes_poll h.registry clock.now
  | drop call =>
    obtain ⟨-, eq⟩ | ⟨c, -, eq⟩ := h.onCall_cases name call _ <;> rw [handle, eq]
    · exact .refl _
    · exact c.becomes_drop h.registry
  | reset => exact h.registry.becomes_reset name
  | forceOpen => exact h.registry.becomes_forceOpen clock.now name

/-! ## Where breakers and calls belong -/

/-- Breakers and calls are kept under the names of their dependencies. -/
structure Sound (h : Hub α) : Prop where
  named : h.registry.Named
  dependency : ∀ {name c}, some c ∈ h.calls name → c.dependency = name

theorem sound_start {registry : Registry} (named : registry.Named) :
    (start registry : Hub α).Sound where
  named := named
  dependency mem := absurd mem List.not_mem_nil

theorem pending_of_call? {found : InFlight.Result α} {c : InFlight α}
    (on_its_way : found.call? = some c) : found = .pending c := by
  cases found with
  | pending c' =>
    cases on_its_way
    rfl
  | ended => cases on_its_way

/-- A use concerns only the calls of its name. -/
theorem calls_handle_ne (h : Hub α) (clock : Clock) {name other : String} (ne : other ≠ name)
    (use : Use α) : (h.handle clock name use).2.1.calls other = h.calls other := by
  cases use with
  | policyFor | getOrCreate | get | status | reset | forceOpen => rfl
  | call | protect => exact calls_withCalls_ne _ ne _
  | reply call | poll call | drop call =>
    obtain ⟨-, eq⟩ | ⟨c, -, eq⟩ := h.onCall_cases name call _ <;> rw [handle, eq]
    exact calls_withCalls_ne _ ne _

namespace Sound

variable {h : Hub α}

theorem dependency_call? (sound : h.Sound) {name : String} {call : Nat} {c : InFlight α}
    (on_its_way : h.call? name call = some c) : c.dependency = name :=
  sound.dependency (List.mem_of_getElem? (Option.join_eq_some_iff.1 on_its_way))

/-- A call that is put down is one to the dependency under whose name it is. -/
theorem dependency_set (sound : h.Sound) {name : String} {call : Nat} {c' : Option (InFlight α)}
    (own : ∀ c, c' = some c → c.dependency = name) {c : InFlight α}
    (mem : some c ∈ (h.calls name).set call c') : c.dependency = name := by
  rcases List.mem_or_eq_of_mem_set mem with mem | eq
  · exact sound.dependency mem
  · exact own c eq.symm

theorem dependency_begun (sound : h.Sound) {name : String}
    {found : InFlight.Result α × Registry × List Notice}
    (own : ∀ c, found.1 = .pending c → c.dependency = name) {c : InFlight α}
    (mem : some c ∈ (h.begun name found).2.1.calls name) : c.dependency = name := by
  rw [begun, calls_withCalls_self] at mem
  rcases List.mem_append.1 mem with mem | mem
  · exact sound.dependency mem
  · exact own c (pending_of_call? (List.mem_singleton.1 mem).symm)

theorem dependency_handle (sound : h.Sound) (clock : Clock) {name : String} {use : Use α}
    {c : InFlight α} (mem : some c ∈ (h.handle clock name use).2.1.calls name) :
    c.dependency = name := by
  cases use with
  | policyFor | getOrCreate | get | status | reset | forceOpen => exact sound.dependency mem
  | call policy limit retry =>
    exact sound.dependency_begun
      (fun c pending => InFlight.dependency_start _ _ _ _ _ _ pending) mem
  | protect change retry =>
    exact sound.dependency_begun
      (fun c pending => InFlight.dependency_start _ _ _ _ _ _ pending) mem
  | reply call reply =>
    obtain ⟨-, eq⟩ | ⟨c', on_its_way, eq⟩ := h.onCall_cases name call _ <;> rw [handle, eq] at mem
    · exact sound.dependency mem
    · rw [calls_withCalls_self] at mem
      have own := sound.dependency_call? on_its_way
      refine sound.dependency_set (fun c eq => ?_) mem
      rw [← Option.some.inj eq]
      exact own
  | poll call =>
    obtain ⟨-, eq⟩ | ⟨c', on_its_way, eq⟩ := h.onCall_cases name call _ <;> rw [handle, eq] at mem
    · exact sound.dependency mem
    · rw [polled, calls_withCalls_self] at mem
      refine sound.dependency_set (fun c eq => ?_) mem
      rw [InFlight.dependency_poll (pending_of_call? eq)]
      exact sound.dependency_call? on_its_way
  | drop call =>
    obtain ⟨-, eq⟩ | ⟨c', on_its_way, eq⟩ := h.onCall_cases name call _ <;> rw [handle, eq] at mem
    · exact sound.dependency mem
    · rw [calls_withCalls_self] at mem
      exact sound.dependency_set (fun _ eq => by cases eq) mem

protected theorem step (sound : h.Sound) (s : Step α) : (h.step s).Sound where
  named := (h.becomes_handle s.clock s.name s.use).named sound.named
  dependency {name c} mem := by
    by_cases eq : name = s.name
    · subst eq
      exact sound.dependency_handle s.clock mem
    · rw [step, calls_handle_ne h s.clock eq] at mem
      exact sound.dependency mem

protected theorem run (sound : h.Sound) (steps : List (Step α)) : (h.run steps).Sound := by
  induction steps generalizing h with
  | nil => exact sound
  | cons s steps ih => exact ih (sound.step s)

end Sound

end Hub

end Safeguard
