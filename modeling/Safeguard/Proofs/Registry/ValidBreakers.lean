import Safeguard.Proofs.Config.Accepted
import Safeguard.Proofs.Registry.FirstUse

/-!
# Accepted configurations give valid breakers

A service is put together from an accepted configuration, and its breakers are created by health
checks and by uses that bring no policy of their own. Each gets a policy that the configuration was
checked for, whatever it is called and whichever use comes first. A breaker with a valid policy is
created below its threshold, and no operation leaves it closed at its threshold
(`Breaker.Operates.sound`). So this holds of all breakers in every run
(`Service.breakers_valid`).
-/

namespace Safeguard

/-! ## One breaker -/

namespace Breaker

/-- A breaker with a valid policy, which is not closed once its failures have reached the
threshold. -/
structure Sound (b : Breaker) : Prop where
  valid : b.policy.Valid
  below : b.circuit.state = .closed → b.circuit.failures < b.policy.failureThreshold.toNat

theorem sound_create {policy : BreakerPolicy} (valid : policy.Valid) (name : String)
    (clock : Clock) : (create name policy clock).Sound where
  valid := valid
  below _ := valid.1

/-- No operation leaves a breaker closed at its threshold. -/
theorem Operates.sound {b b' : Breaker} (h : Operates b b') (sound : b.Sound) : b'.Sound := by
  obtain ⟨valid, below⟩ := sound
  cases h with
  | ask now =>
    refine ⟨valid, fun closed => ?_⟩
    exact (b.circuit.ask_counters now).1.trans_lt (below (Circuit.closed_of_ask closed))
  | succeed => exact ⟨valid, fun _ => b.circuit.failures_succeed.trans_lt valid.1⟩
  | fail now => exact ⟨valid, Circuit.failures_fail_lt⟩
  | abandon permit =>
    refine ⟨valid, fun closed => ?_⟩
    rw [circuit_abandon, Circuit.state_abandon] at closed
    exact (b.circuit.abandon_counters permit).1.trans_lt (below closed)
  | reset => exact ⟨valid, fun _ => valid.1⟩
  | forceOpen now => exact ⟨valid, nofun⟩

theorem Follows.sound {b b' : Breaker} (h : Follows b' b) (sound : b.Sound) : b'.Sound :=
  h.keeps Operates.sound sound

end Breaker

/-! ## Services -/

namespace Components

theorem settings_addTargets (network : Network) (m : Monitor) (targets : List CheckTarget) :
    (addTargets network m targets).1.settings = m.settings := by
  induction targets generalizing m with
  | nil => rfl
  | cons target targets ih => exact ih (addTarget network m target).1

theorem settings_build (network : Network) (clock : Clock) (c : Configuration) :
    (build network clock c).1.monitor.settings = c.health :=
  settings_addTargets network _ c.health.checks

end Components

namespace Use

variable {α : Type}

/-- Whether a use brings a policy, or a part of one, for a breaker that it may create. -/
def bringsPolicy : Use α → Bool
  | getOrCreate (some _) | call (some _) _ _ | protect (some _) _ => true
  | _ => false

/-- A use that brings no policy asks for the general one of the name. -/
theorem policy_of_asks {use : Use α} (brings : use.bringsPolicy = false) {r : Registry}
    {name : String} {policy : BreakerPolicy} (asks : use.asks r name = some policy) :
    policy = r.policyFor name := by
  cases use with
  | getOrCreate given | call given limit retry =>
    cases given with
    | none =>
      cases asks
      rfl
    | some _ => cases brings
  | protect change retry =>
    cases change with
    | none =>
      cases asks
      exact (r.policyFor_eq_layered name).symm
    | some _ => cases brings
  | _ => cases asks

end Use

/-- A round asks for breakers with the policy of health checks. -/
theorem Scene.policy_of_asks {scene : Scene} {name : String} {policy : BreakerPolicy}
    (asks : scene.asks = some (name, policy)) : policy = scene.monitor.settings.breaker := by
  obtain ⟨⟨time, p, moment⟩, -, asks⟩ := Option.bind_eq_some_iff.mp asks
  cases moment <;> cases asks
  rfl

namespace Service

variable {α : Type} {c : Configuration} {s : Service α} {a : Activity α}

/-- Whether an activity creates breakers only as the configuration says: a use that brings a policy
finds the breaker there, and a round of health checks is one of the service's own. -/
def IsPlain (settings : HealthSettings) (s : Service α) : Activity α → Prop
  | .use step => step.use.bringsPolicy = true → (s.registry.get? step.name).isSome = true
  | .beginRound monitor _ _ => monitor.settings = settings
  | .goOn _ _ => True

/-- Whether every activity of a run creates breakers only as the configuration says. -/
def ArePlain (settings : HealthSettings) : Service α → List (Activity α) → Prop
  | _, [] => True
  | s, a :: as => s.IsPlain settings a ∧ ArePlain settings (s.step a) as

/-- The breakers of a service, and the rounds that may create more, go by a configuration. -/
structure GoesBy (c : Configuration) (s : Service α) : Prop where
  defaults : s.registry.defaults = c.breaker
  overrides : s.registry.overrides = c.dependencies
  rounds : ∀ scene ∈ s.rounds, scene.monitor.settings = c.health
  breakers : ∀ {name b}, s.registry.get? name = some b → c.Gives name b.policy ∧ b.Sound

theorem goesBy_start (network : Network) (clock : Clock) (c : Configuration) :
    (start (Components.build network clock c).1.registry : Service α).GoesBy c where
  defaults := rfl
  overrides := rfl
  rounds := nofun
  breakers := nofun

namespace GoesBy

/-- The registry gives a name the policy that the configuration gives it. -/
theorem policyFor_eq (by_configuration : s.GoesBy c) (name : String) :
    s.registry.policyFor name = c.policyFor name := by
  have same : s.registry.policyFor name = (Components.registryOf c).policyFor name := by
    simp only [Registry.policyFor, by_configuration.defaults, by_configuration.overrides,
      Components.registryOf]
  rw [same, Configuration.policyFor_registryOf]

/-- A breaker that is asked for and is not there gets a policy of the configuration. -/
theorem gives_of_asks (by_configuration : s.GoesBy c) (plain : s.IsPlain c.health a)
    {name : String} {policy : BreakerPolicy} (asks : s.asks a = some (name, policy))
    (missing : s.registry.get? name = none) : c.Gives name policy := by
  cases a with
  | use step =>
    obtain ⟨policy', asked, eq⟩ := Option.map_eq_some_iff.mp asks
    cases eq
    cases brings : step.use.bringsPolicy with
    | true =>
      have present := plain brings
      rw [missing] at present
      cases present
    | false =>
      have general := Use.policy_of_asks brings asked
      exact .inl (general.trans (by_configuration.policyFor_eq step.name))
  | beginRound => cases asks
  | goOn round clock =>
    obtain ⟨scene, found, asked⟩ := Option.bind_eq_some_iff.mp asks
    have settings := by_configuration.rounds scene (List.mem_of_getElem? found)
    rw [Scene.policy_of_asks asked, settings]
    exact .inr rfl

/-- A plain activity leaves a service that goes by the configuration. -/
protected theorem step (by_configuration : s.GoesBy c) (accepted : c.Accepted)
    (plain : s.IsPlain c.health a) : (s.step a).GoesBy c where
  defaults := (s.becomes_step a).defaults.trans by_configuration.defaults
  overrides := (s.becomes_step a).overrides.trans by_configuration.overrides
  rounds := by
    intro scene mem
    cases a with
    | use step => exact by_configuration.rounds scene mem
    | beginRound monitor clock draw =>
      obtain old | new := List.mem_append.mp mem
      · exact by_configuration.rounds scene old
      · cases List.mem_singleton.mp new
        exact plain
    | goOn round clock =>
      simp only [step] at mem
      split at mem
      · rename_i before found
        obtain old | new := List.mem_or_eq_of_mem_set mem
        · exact by_configuration.rounds scene old
        · rw [new]
          have kept := (before.meet clock s.registry).settings_step .proceed
          exact kept.trans (by_configuration.rounds before (List.mem_of_getElem? found))
      · exact by_configuration.rounds scene mem
  breakers := by
    intro name b found
    cases before : s.registry.get? name with
    | some b₀ =>
      obtain ⟨b', found', follows⟩ := (s.becomes_step a).changed before
      cases found.symm.trans found'
      obtain ⟨given, sound⟩ := by_configuration.breakers before
      exact ⟨follows.sameGuard.2.1 ▸ given, follows.sound sound⟩
    | none =>
      obtain ⟨policy, clock, asks, follows⟩ := (s.becomes_step a).created before found
      have given := by_configuration.gives_of_asks plain asks before
      have sound := Breaker.sound_create (accepted.valid_of_gives given) name clock
      exact ⟨follows.sameGuard.2.1 ▸ given, follows.sound sound⟩

/-- So does a run of plain activities. -/
protected theorem run (by_configuration : s.GoesBy c) (accepted : c.Accepted)
    (as : List (Activity α)) (plain : s.ArePlain c.health as) : (s.run as).GoesBy c := by
  induction as generalizing s with
  | nil => exact by_configuration
  | cons a as ih => exact ih (by_configuration.step accepted plain.1) plain.2

end GoesBy

/-- **Accepted configurations give valid breakers.** Take a service as it is put together from an
accepted configuration, and any run of it, with calls and rounds of checks that overlap, in which
breakers are created only by the checks of the service and by uses that bring no policy. Every
breaker that there is then, under whatever name, has a policy that the configuration gives. It opens
after one failure at least and expects a rate of failures between none and all; and it is closed
only below its threshold. -/
theorem breakers_valid {c : Configuration} (accepted : c.Accepted) (network : Network)
    (clock : Clock) (as : List (Activity α)) :
    let parts := (Components.build network clock c).1
    (start parts.registry).ArePlain parts.monitor.settings as →
    ∀ name b, ((start parts.registry).run as).registry.get? name = some b →
      c.Gives name b.policy ∧
      1 ≤ b.policy.failureThreshold.toNat ∧
      (0.0 ≤ b.policy.expectedErrorRate ∧ b.policy.expectedErrorRate ≤ 1.0) ∧
      (b.circuit.state = .closed → b.circuit.failures < b.policy.failureThreshold.toNat) := by
  intro parts plain name b found
  rw [Components.settings_build] at plain
  have by_configuration : ((start parts.registry).run as : Service α).GoesBy c :=
    (goesBy_start network clock c).run accepted as plain
  obtain ⟨given, sound⟩ := by_configuration.breakers found
  exact ⟨given, sound.valid.1, sound.valid.2, sound.below⟩

/-- A call without a policy of its own creates the breaker of an overridden dependency, and a
useless policy comes too late. -/
theorem breakers_valid_of_override :
    let c : Configuration :=
      { dependencies := NameMap.empty.insert "db" { failureThreshold := some 2 }
        admin := { enabled := false } }
    let clock : Clock := { wallStart := 0 }
    let first : Activity Unit := .use ⟨clock, "db", .call none none none⟩
    let second : Activity Unit := .use ⟨clock, "db", .getOrCreate (some { failureThreshold := 0 })⟩
    let parts := (Components.build .refusing clock c).1
    c.problems = [] ∧
    ∃ b, ((start parts.registry).run [first, second]).registry.get? "db" = some b ∧
      1 ≤ b.policy.failureThreshold.toNat ∧
      (b.circuit.state = .closed → b.circuit.failures < b.policy.failureThreshold.toNat) := by
  intro c clock first second parts
  have sound : c.problems = [] := by decide +kernel
  have present : (((start parts.registry).step first).registry.get? "db").isSome = true :=
    ((start parts.registry).becomes_step first).present rfl
  obtain ⟨b₀, found₀⟩ := Option.isSome_iff_exists.mp present
  obtain ⟨b, found, -⟩ := ((start parts.registry).step first).kept_run [second] found₀
  have plain : (start parts.registry).ArePlain parts.monitor.settings [first, second] :=
    ⟨nofun, fun _ => present, trivial⟩
  obtain ⟨-, positive, -, below⟩ :=
    breakers_valid (.checked sound) .refusing clock _ plain "db" b found
  exact ⟨sound, b, found, positive, below⟩

end Service

end Safeguard
