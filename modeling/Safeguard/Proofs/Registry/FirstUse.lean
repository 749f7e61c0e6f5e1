import Safeguard.Proofs.Health.Scene
import Safeguard.Proofs.Registry.Hub

/-!
# The first use of a name decides

A `Service` is a hub with rounds of health checks under way. Its breakers are created in three
ways: outright, by a call that is protected where it is made, and by a health check. Whatever comes
first creates the breaker of a name and decides its policy; nothing that comes later changes that,
and no breaker ever goes away (`Service.policy_fixed_at_first_use`).
-/

namespace Safeguard

/-! ## Rounds of health checks -/

/-- The breaker that a moment asks for, and the policy that a new one gets. -/
def Moment.asks (policy : BreakerPolicy) : Nat × Probe × Moment → Option (String × BreakerPolicy)
  | (_, p, .ask) => some (checkBreaker p.name, policy)
  | _ => none

theorem Round.becomes_step (policy : BreakerPolicy) (r : Round) (m : Nat × Probe × Moment) :
    r.registry.Becomes (Moment.asks policy m) (r.step policy m).registry := by
  have played := r.played_step policy m
  generalize r.step policy m = r' at played
  cases played with
  | @nothing m dead =>
    obtain ⟨time, p, moment⟩ := m
    cases moment with
    | ask => exact absurd (.inl rfl) dead
    | report | settle => exact .refl _
  | @letThrough time p =>
    exact r.registry.becomes_ask (r.clock.waitUntil time) (checkBreaker p.name) (some policy)
  | @turnedAway time p =>
    rw [Round.registry_conclude]
    exact r.registry.becomes_ask (r.clock.waitUntil time) (checkBreaker p.name) (some policy)
  | reported => exact .refl _
  | settled =>
    rw [Round.settle_eq, Round.registry_conclude]
    exact r.registry.becomes_settle _ _ _

namespace Scene

/-- The breaker that a round asks for next, if it does. -/
def asks (s : Scene) : Option (String × BreakerPolicy) :=
  s.pending.head?.bind (Moment.asks s.monitor.settings.breaker)

/-- The scene with the clock and the breakers as they are now. -/
def meet (s : Scene) (clock : Clock) (registry : Registry) : Scene :=
  { s with round := { s.round with clock, registry } }

theorem becomes_proceed (s : Scene) :
    s.round.registry.Becomes s.asks s.proceed.round.registry := by
  obtain ⟨m, rest, pending, eq⟩ | ⟨name, check, rest, pending, -, eq⟩ | ⟨⟨pending, -⟩, eq⟩ :=
    s.proceed_cases
  · rw [eq, asks, pending]
    exact s.round.becomes_step _ m
  · rw [eq, asks, pending]
    exact .refl _
  · rw [eq, asks, pending]
    exact .refl _

end Scene

/-! ## Services -/

/-- A registry in use, and rounds of health checks under way. -/
structure Service (α : Type) where
  hub : Hub α
  rounds : List Scene := []

/-- What happens in a service. -/
inductive Activity (α : Type)
  /-- A breaker is used. -/
  | use (s : Hub.Step α)
  /-- A round of health checks begins. -/
  | beginRound (monitor : Monitor) (clock : Clock) (draw : String → Nat → Float)
  /-- A round goes on by one moment, or with its next check. -/
  | goOn (round : Nat) (clock : Clock)

namespace Service

variable {α : Type}

/-- A service whose breakers are those of a registry. -/
def start (registry : Registry) : Service α where
  hub := .start registry

/-- The breakers of a service. -/
abbrev registry (s : Service α) : Registry := s.hub.registry

/-- The breaker that an activity asks for, and the policy that a new one gets. -/
def asks (s : Service α) : Activity α → Option (String × BreakerPolicy)
  | .use step => (step.use.asks s.registry step.name).map fun policy => (step.name, policy)
  | .beginRound .. => none
  | .goOn round _ => s.rounds[round]?.bind Scene.asks

/-- The service after an activity. -/
def step (s : Service α) : Activity α → Service α
  | .use step => { s with hub := s.hub.step step }
  | .beginRound monitor clock draw =>
    { s with rounds := s.rounds ++ [Scene.start monitor clock s.registry draw] }
  | .goOn round clock =>
    match s.rounds[round]? with
    | some scene =>
      let scene := (scene.meet clock s.registry).proceed
      { hub := s.hub.withRegistry scene.round.registry, rounds := s.rounds.set round scene }
    | none => s

/-- The service after activities, one after the other. -/
def run (s : Service α) (as : List (Activity α)) : Service α := as.foldl step s

@[simp] theorem run_nil (s : Service α) : s.run [] = s := rfl

@[simp] theorem run_cons (s : Service α) (a : Activity α) (as : List (Activity α)) :
    s.run (a :: as) = (s.step a).run as := rfl

theorem run_append (s : Service α) (as as' : List (Activity α)) :
    s.run (as ++ as') = (s.run as).run as' := List.foldl_append

/-- An activity changes breakers that exist and keeps their policies, or creates the one that it
asks for. -/
theorem becomes_step (s : Service α) (a : Activity α) :
    s.registry.Becomes (s.asks a) (s.step a).registry := by
  cases a with
  | use step => exact s.hub.becomes_handle step.clock step.name step.use
  | beginRound => exact .refl _
  | goOn round clock =>
    cases found : s.rounds[round]? with
    | none =>
      simp only [asks, step, found]
      exact .refl _
    | some scene =>
      simp only [asks, step, found]
      exact (scene.meet clock s.registry).becomes_proceed

/-! ## What stays -/

/-- A breaker that exists keeps its name, its policy and its anchor. -/
theorem kept_run (s : Service α) (as : List (Activity α)) {name : String} {b : Breaker}
    (found : s.registry.get? name = some b) :
    ∃ b', (s.run as).registry.get? name = some b' ∧ b'.SameGuard b := by
  induction as generalizing s b with
  | nil => exact ⟨b, found, .refl b⟩
  | cons a as ih =>
    obtain ⟨b₁, found₁, guard₁⟩ := (s.becomes_step a).kept found
    obtain ⟨b₂, found₂, guard₂⟩ := ih (s.step a) found₁
    exact ⟨b₂, found₂, guard₂.trans guard₁⟩

/-- What an activity asks for is there afterwards. -/
theorem isSome_of_asks {s : Service α} {as before after : List (Activity α)} {a : Activity α}
    (split : as = before ++ a :: after) {name : String} {policy : BreakerPolicy}
    (asks : (s.run before).asks a = some (name, policy)) :
    ((s.run as).registry.get? name).isSome = true := by
  obtain ⟨b, found⟩ := Option.isSome_iff_exists.1 (((s.run before).becomes_step a).present asks)
  obtain ⟨b', found', -⟩ := ((s.run before).step a).kept_run after found
  rw [split, run_append, run_cons, found', Option.isSome_some]

/-- A breaker that is there and was not at the beginning was asked for, for the first time by the
activity that decided its policy. -/
theorem exists_first_use {s : Service α} {as : List (Activity α)} {name : String} {b : Breaker}
    (missing : s.registry.get? name = none) (found : (s.run as).registry.get? name = some b) :
    ∃ before a after, as = before ++ a :: after ∧ (s.run before).registry.get? name = none ∧
      (s.run before).asks a = some (name, b.policy) ∧ b.name = name := by
  induction as generalizing s with
  | nil => exact absurd (missing.symm.trans found) nofun
  | cons a as ih =>
    cases between : (s.step a).registry.get? name with
    | none =>
      obtain ⟨before, a', after, rfl, there, asks, named⟩ := ih between found
      exact ⟨a :: before, a', after, rfl, there, asks, named⟩
    | some b₁ =>
      obtain ⟨asks, named⟩ := (s.becomes_step a).fresh missing between
      obtain ⟨b₂, found₂, guard⟩ := (s.step a).kept_run as between
      obtain rfl : b = b₂ := Option.some.inj (found.symm.trans found₂)
      exact ⟨[], a, as, rfl, missing, by rw [run_nil, asks, guard.2.1], guard.1.trans named⟩

theorem settings_run (s : Service α) (as : List (Activity α)) :
    (s.run as).registry.defaults = s.registry.defaults ∧
      (s.run as).registry.overrides = s.registry.overrides := by
  induction as generalizing s with
  | nil => exact ⟨rfl, rfl⟩
  | cons a as ih =>
    obtain ⟨defaults, overrides⟩ := ih (s.step a)
    exact ⟨defaults.trans (s.becomes_step a).defaults, overrides.trans (s.becomes_step a).overrides⟩

/-! ## The first use decides -/

/-- No activity of a run asks for the breaker of a name. -/
def Unasked (s : Service α) (name : String) (as : List (Activity α)) : Prop :=
  ∀ before a after policy, as = before ++ a :: after →
    (s.run before).asks a ≠ some (name, policy)

/-- A breaker has the policy that the first activity to ask for it asks for. -/
theorem policy_of_first_use {s : Service α} {before after : List (Activity α)} {a : Activity α}
    {name : String} {policy : BreakerPolicy} (missing : s.registry.get? name = none)
    (first : s.Unasked name before) (asks : (s.run before).asks a = some (name, policy)) :
    ∃ b, (s.run (before ++ a :: after)).registry.get? name = some b ∧ b.name = name ∧
      b.policy = policy := by
  have not_yet : (s.run before).registry.get? name = none := by
    cases found : (s.run before).registry.get? name with
    | none => rfl
    | some b =>
      obtain ⟨earlier, a', later, split, -, asked, -⟩ := exists_first_use missing found
      exact absurd asked (first earlier a' later _ split)
  obtain ⟨b, found⟩ := Option.isSome_iff_exists.1 (((s.run before).becomes_step a).present asks)
  obtain ⟨asked, named⟩ := ((s.run before).becomes_step a).fresh not_yet found
  obtain ⟨b', found', guard⟩ := ((s.run before).step a).kept_run after found
  rw [asks] at asked
  cases asked
  exact ⟨b', by rw [run_append, run_cons, found'], guard.1.trans named, guard.2.1⟩

/-- The breakers of a run are those that have been asked for, each with the policy that was asked
for first. -/
structure FirstUseDecides (s : Service α) (as : List (Activity α)) : Prop where
  /-- The names are listed in order, and the reports on all breakers are by these names. -/
  ascending : (s.run as).registry.names.Pairwise (· < ·)
  statuses : ∀ now, ((s.run as).registry.statuses now).names = (s.run as).registry.names
  /-- A name has a breaker if an activity has asked for it. -/
  mem_names_iff : ∀ name, name ∈ (s.run as).registry.names ↔
    ∃ before a after policy, as = before ++ a :: after ∧
      (s.run before).asks a = some (name, policy)
  /-- A breaker stays, with its name, its policy and its anchor. -/
  kept : ∀ before after name b, as = before ++ after →
    (s.run before).registry.get? name = some b →
    ∃ b', (s.run as).registry.get? name = some b' ∧ b'.SameGuard b
  /-- The first activity to ask for a breaker decides its policy. -/
  decided : ∀ before a after name policy, as = before ++ a :: after → s.Unasked name before →
    (s.run before).asks a = some (name, policy) →
    ∃ b, (s.run as).registry.get? name = some b ∧ b.name = name ∧ b.policy = policy

theorem firstUseDecides {s : Service α} (missing : ∀ name, s.registry.get? name = none)
    (as : List (Activity α)) : s.FirstUseDecides as where
  ascending := (s.run as).registry.breakers.names_ascending
  statuses now := (s.run as).registry.breakers.names_map _
  mem_names_iff name := by
    rw [Registry.names, NameMap.mem_names_iff]
    constructor
    · intro present
      obtain ⟨b, found⟩ := Option.isSome_iff_exists.1 present
      obtain ⟨before, a, after, split, -, asks, -⟩ := exists_first_use (missing name) found
      exact ⟨before, a, after, b.policy, split, asks⟩
    · rintro ⟨before, a, after, policy, split, asks⟩
      exact isSome_of_asks split asks
  kept before after name b split found := by
    obtain ⟨b', found', guard⟩ := (s.run before).kept_run after found
    exact ⟨b', by rw [split, run_append, found'], guard⟩
  decided before a after name policy split first asks := by
    rw [split]
    exact policy_of_first_use (missing name) first asks

/-- What an activity asks for depends on the configuration of the registry alone. -/
structure AsksByPrecedence (defaults : BreakerPolicy) (overrides : NameMap BreakerOverride)
    (s : Service α) : Prop where
  /-- A policy that is given is taken as a whole. -/
  given : ∀ clock name policy limit retry,
    s.asks (.use ⟨clock, name, .getOrCreate (some policy)⟩) = some (name, policy) ∧
      s.asks (.use ⟨clock, name, .call (some policy) limit retry⟩) = some (name, policy)
  /-- Without one, it is the general policy for the name. -/
  general : ∀ clock name limit retry,
    s.asks (.use ⟨clock, name, .getOrCreate none⟩) =
        some (name, ({ defaults, overrides } : Registry).policyFor name) ∧
      s.asks (.use ⟨clock, name, .call none limit retry⟩) =
        some (name, ({ defaults, overrides } : Registry).policyFor name)
  /-- Where a call is protected, what is set there comes first, then what is set for the name. -/
  layered : ∀ clock name change retry,
    s.asks (.use ⟨clock, name, .protect change retry⟩) =
      some (name, defaults.layered change (overrides.get? name))
  /-- What sets nothing makes no difference. -/
  unchanged : ∀ clock name o retry, o.isEmpty = true →
    s.step (.use ⟨clock, name, .protect (some o) retry⟩) =
      s.step (.use ⟨clock, name, .protect none retry⟩)
  /-- A health check has a breaker of its own, with the policy of health checks. -/
  check : ∀ clock round scene time p rest, s.rounds[round]? = some scene →
    scene.pending = (time, p, .ask) :: rest →
    s.asks (.goOn round clock) = some (checkBreaker p.name, scene.monitor.settings.breaker)

theorem asksByPrecedence {defaults : BreakerPolicy} {overrides : NameMap BreakerOverride}
    {s : Service α} (same_defaults : s.registry.defaults = defaults)
    (same_overrides : s.registry.overrides = overrides) :
    s.AsksByPrecedence defaults overrides where
  given _ _ _ _ _ := ⟨rfl, rfl⟩
  general clock name limit retry := by
    have general : s.registry.policyFor name =
        ({ defaults, overrides } : Registry).policyFor name := by
      simp only [Registry.policyFor, same_defaults, same_overrides]
    simp only [asks, Use.asks, general, Option.getD_none, Option.map_some, and_self]
  layered clock name change retry := by
    simp only [asks, Use.asks, same_defaults, same_overrides, Option.map_some]
  unchanged clock name o retry empty := by
    rw [BreakerOverride.eq_of_isEmpty empty]
    rfl
  check clock round scene time p rest there pending := by
    simp only [asks, there, Scene.asks, pending, List.head?_cons, Option.bind_some, Moment.asks]

/-- The policy of a breaker is fixed by the first activity that asks for it: a policy that is given
as a whole, or else the general one for its name, or, where a call is protected, the one with the
settings of that place before those for the name. Later activities change neither that nor any
other breaker's, no breaker goes away, and the names are those that have been asked for. -/
theorem policy_fixed_at_first_use (defaults : BreakerPolicy)
    (overrides : NameMap BreakerOverride) (as : List (Activity α)) :
    (start { defaults, overrides }).FirstUseDecides as ∧
      ((start { defaults, overrides }).run as).AsksByPrecedence defaults overrides :=
  ⟨firstUseDecides (fun _ => rfl) as,
    asksByPrecedence (settings_run _ as).1 (settings_run _ as).2⟩

/-- A protected call sets the threshold, the override for the name sets the wait, and whoever asks
for the breaker later gets that one, whatever policy they ask for. -/
theorem policy_fixed_at_first_use_of_protected_call :
    let clock : Clock := { wallStart := 0 }
    let overrides := NameMap.empty.insert "db" { recoveryTimeout := some 50 }
    let service : Service Unit := start { overrides }
    let first : Activity Unit :=
      .use ⟨clock, "db", .protect (some { failureThreshold := some 2 }) none⟩
    let second : Activity Unit := .use ⟨clock, "db", .getOrCreate (some {})⟩
    ∃ b, (service.run [first, second]).registry.get? "db" = some b ∧ b.name = "db" ∧
      b.policy = { failureThreshold := 2, recoveryTimeout := 50000000 } := by
  intro clock overrides service first second
  have decides := (policy_fixed_at_first_use {} overrides [first, second]).1
  refine decides.decided [] first [second] "db" _ rfl ?_ rfl
  intro before a after policy split
  cases before <;> cases split

end Service

end Safeguard
