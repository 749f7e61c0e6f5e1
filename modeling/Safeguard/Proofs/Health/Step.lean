import Safeguard.Health.Round

/-!
# What a moment does to a round

`Round.step` plays one moment of one check. A moment is *live* if something comes of it: the breaker
is asked in any case, and what follows counts if it let the check through (`Round.IsLive`). What
comes of a moment is one of the cases of `Round.Played` (`Round.played_step`):

* A moment that is not live changes nothing (`Round.Played.eq_of_not_live`), and a live one moves
  the clock to its instant (`Round.Played.clock`).
* A moment leaves all other checks alone: their results, their invocations and their breakers
  (`Round.Played.services_ne`, `Round.Played.invocations_ne`, `Round.Played.breaker_ne`).
* What it does to its own check is told by `Round.ask_of_admitted`, `Round.ask_of_rejected` and
  `Round.settle_eq`.
-/

namespace Safeguard

/-- Breakers of different checks have different names. -/
theorem checkBreaker_injective {a b : String} (h : checkBreaker a = checkBreaker b) : a = b := by
  have lists := congrArg String.toList h
  simp only [checkBreaker, String.toList_append, List.append_cancel_left_eq] at lists
  exact String.toList_injective lists

namespace Registry

variable {α : Type}

/-! ## Breakers stay -/

theorem isSome_get?_put {r : Registry} {other : String} (h : (r.get? other).isSome = true)
    (name : String) (b : Breaker) : ((r.put name b).get? other).isSome = true := by
  by_cases eq : other = name
  · rw [eq, get?_put_self, Option.isSome_some]
  · rwa [get?_put_ne r eq]

theorem isSome_get?_getOrCreate {r : Registry} {other : String}
    (h : (r.get? other).isSome = true) (clock : Clock) (name : String)
    (policy : Option BreakerPolicy) :
    ((r.getOrCreate clock name policy).2.1.get? other).isSome = true := by
  unfold getOrCreate
  split
  · exact h
  · exact isSome_get?_put h _ _

theorem isSome_get?_ask {r : Registry} {other : String} (h : (r.get? other).isSome = true)
    (clock : Clock) (name : String) (policy : Option BreakerPolicy) :
    ((r.ask clock name policy).2.1.get? other).isSome = true :=
  isSome_get?_put (isSome_get?_getOrCreate h clock name policy) _ _

theorem isSome_get?_settle {r : Registry} {other : String} (h : (r.get? other).isSome = true)
    (now : Nat) (name : String) (reply : CallReply α) :
    ((r.settle now name reply).1.get? other).isSome = true := by
  unfold settle
  split
  · exact isSome_get?_put h _ _
  · exact h

theorem isSome_get?_abandon {r : Registry} {other : String} (h : (r.get? other).isSome = true)
    (name : String) (permit : Permit) :
    ((r.abandon name permit).get? other).isSome = true := by
  unfold abandon
  split
  · exact isSome_get?_put h _ _
  · exact h

theorem isSome_get?_reset {r : Registry} {other : String} (h : (r.get? other).isSome = true)
    (name : String) : ((r.reset name).2.1.get? other).isSome = true := by
  unfold reset
  split
  · exact isSome_get?_put h _ _
  · exact h

theorem isSome_get?_forceOpen {r : Registry} {other : String}
    (h : (r.get? other).isSome = true) (now : Nat) (name : String) :
    ((r.forceOpen now name).2.1.get? other).isSome = true := by
  unfold forceOpen
  split
  · exact isSome_get?_put h _ _
  · exact h

/-! ## The breaker that is asked or settles -/

theorem get?_ask_self (r : Registry) (clock : Clock) (name : String)
    (policy : Option BreakerPolicy) :
    (r.ask clock name policy).2.1.get? name =
      some ((r.getOrCreate clock name policy).1.ask clock.now).2.1 := get?_put_self _ _ _

theorem admission_ask (r : Registry) (clock : Clock) (name : String)
    (policy : Option BreakerPolicy) :
    (r.ask clock name policy).1 = ((r.getOrCreate clock name policy).1.ask clock.now).1 := rfl

theorem get?_settle_self {r : Registry} {name : String} {b : Breaker}
    (h : r.get? name = some b) (now : Nat) (reply : CallReply α) :
    (r.settle now name reply).1.get? name = some (b.settle now reply).1 := by
  simp only [settle, h, get?_put_self]

end Registry

namespace Round

variable (r : Round) (p : Probe) (policy : BreakerPolicy)

/-! ## Results -/

/-- The result of a check that began with a probe and ends now. -/
def result (reply : CallReply Finding) : ServiceHealth :=
  match reply with
  | .ok finding =>
    { status := finding.status, responseTime := some (r.clock.now - p.begun)
      error := finding.error, circuitState := r.circuitState p.name
      lastCheck := r.clock.unixMillis }
  | .error error =>
    { status := .down, error := some error.message, circuitState := r.circuitState p.name
      lastCheck := r.clock.unixMillis }

section Conclude

variable (reply : CallReply Finding)

@[simp] theorem clock_conclude : (r.conclude p reply).clock = r.clock := by
  cases reply <;> rfl

@[simp] theorem registry_conclude : (r.conclude p reply).registry = r.registry := by
  cases reply <;> rfl

@[simp] theorem invocations_conclude : (r.conclude p reply).invocations = r.invocations := by
  cases reply <;> rfl

@[simp] theorem services_conclude :
    (r.conclude p reply).services = r.services.insert p.name (r.result p reply) := by
  cases reply <;> rfl

end Conclude

/-! ## Asking and settling -/

/-- What the breaker of a probe answers. -/
abbrev answer : Admission × Registry × List Notice :=
  r.registry.ask r.clock (checkBreaker p.name) (some policy)

section Ask

variable {r p policy}

theorem ask_of_admitted {permit : Permit} (h : (r.answer p policy).1 = .admitted permit) :
    r.ask policy p =
      { r with
        registry := (r.answer p policy).2.1
        invocations := r.invocations.insert p.name p.run.invocations
        notices := r.notices ++ (r.answer p policy).2.2 } := by
  rcases eq : r.answer p policy with ⟨admission, registry, notices⟩
  rw [eq] at h
  cases h
  simp only [ask, eq]

theorem ask_of_rejected {retryIn : Option Nat} (h : (r.answer p policy).1 = .rejected retryIn) :
    r.ask policy p =
      conclude
        { r with
          registry := (r.answer p policy).2.1
          notices := r.notices ++ (r.answer p policy).2.2 }
        p (.error (.rejected (checkBreaker p.name) retryIn)) := by
  rcases eq : r.answer p policy with ⟨admission, registry, notices⟩
  rw [eq] at h
  cases h
  simp only [ask, eq]

/-- What is put down for a probe that is turned away. -/
theorem exists_of_rejected {retryIn : Option Nat}
    (h : (r.answer p policy).1 = .rejected retryIn) :
    ∃ r' : Round,
      r.ask policy p = r'.conclude p (.error (.rejected (checkBreaker p.name) retryIn)) ∧
        r'.invocations = r.invocations :=
  ⟨_, ask_of_rejected h, rfl⟩

end Ask

@[simp] theorem registry_ask : (r.ask policy p).registry = (r.answer p policy).2.1 := by
  cases h : (r.answer p policy).1 with
  | admitted permit => rw [ask_of_admitted h]
  | rejected retryIn => rw [ask_of_rejected h, registry_conclude]

/-- How a probe ends for its breaker. -/
abbrev ending : Registry × List Notice :=
  r.registry.settle r.clock.now (checkBreaker p.name) (CallReply.ofReply p.run.reply)

theorem settle_eq :
    r.settle p =
      conclude { r with registry := (r.ending p).1, notices := r.notices ++ (r.ending p).2 } p
        (CallReply.ofReply p.run.reply) := rfl

/-- What is put down for a probe that settles. -/
theorem exists_of_settle :
    ∃ r' : Round,
      r.settle p = r'.conclude p (CallReply.ofReply p.run.reply) ∧
        r'.registry = (r.ending p).1 ∧ r'.clock = r.clock ∧ r'.invocations = r.invocations :=
  ⟨_, rfl, rfl, rfl, rfl⟩

/-! ## What comes of a moment -/

/-- Whether something comes of a moment. -/
def IsLive (m : Nat × Probe × Moment) : Prop :=
  m.2.2 = .ask ∨ r.invocations.contains m.2.1.name = true

instance (m : Nat × Probe × Moment) : Decidable (r.IsLive m) :=
  inferInstanceAs (Decidable (_ ∨ _))

/-- The round at a later instant. -/
def waitUntil (time : Nat) : Round := { r with clock := r.clock.waitUntil time }

theorem waitUntil_of_le {r : Round} {time : Nat} (past : time ≤ r.clock.now) :
    r.waitUntil time = r := by
  have clock : r.clock.waitUntil time = r.clock := by
    rw [Clock.waitUntil, Nat.max_eq_left past]
  rw [waitUntil, clock]

/-- What comes of a moment, case by case. -/
inductive Played (policy : BreakerPolicy) (r : Round) : Nat × Probe × Moment → Round → Prop
  | nothing {m : Nat × Probe × Moment} (dead : ¬ r.IsLive m) : Played policy r m r
  | letThrough {time : Nat} {p : Probe} {permit : Permit}
      (admitted : ((r.waitUntil time).answer p policy).1 = .admitted permit) :
      Played policy r (time, p, .ask)
        { r.waitUntil time with
          registry := ((r.waitUntil time).answer p policy).2.1
          invocations := r.invocations.insert p.name p.run.invocations
          notices := r.notices ++ ((r.waitUntil time).answer p policy).2.2 }
  | turnedAway {time : Nat} {p : Probe} {retryIn : Option Nat}
      (rejected : ((r.waitUntil time).answer p policy).1 = .rejected retryIn) :
      Played policy r (time, p, .ask)
        (conclude
          { r.waitUntil time with
            registry := ((r.waitUntil time).answer p policy).2.1
            notices := r.notices ++ ((r.waitUntil time).answer p policy).2.2 }
          p (.error (.rejected (checkBreaker p.name) retryIn)))
  | reported {time : Nat} {p : Probe} (notice : Notice)
      (invoked : r.invocations.contains p.name = true) :
      Played policy r (time, p, .report notice)
        { r.waitUntil time with notices := r.notices ++ [notice] }
  | settled {time : Nat} {p : Probe} (invoked : r.invocations.contains p.name = true) :
      Played policy r (time, p, .settle) ((r.waitUntil time).settle p)

/-- The list of `Played` is complete. -/
theorem played_step (m : Nat × Probe × Moment) : Played policy r m (r.step policy m) := by
  obtain ⟨time, p, moment⟩ := m
  cases moment with
  | ask =>
    change Played policy r _ ((r.waitUntil time).ask policy p)
    cases h : ((r.waitUntil time).answer p policy).1 with
    | admitted permit =>
      rw [ask_of_admitted h]
      exact .letThrough h
    | rejected retryIn =>
      rw [ask_of_rejected h]
      exact .turnedAway h
  | report notice =>
    by_cases invoked : r.invocations.contains p.name = true
    · rw [step, if_pos invoked]
      exact .reported notice invoked
    · rw [step, if_neg invoked]
      exact .nothing fun live => invoked (live.resolve_left nofun)
  | settle =>
    by_cases invoked : r.invocations.contains p.name = true
    · rw [step, if_pos invoked]
      exact .settled invoked
    · rw [step, if_neg invoked]
      exact .nothing fun live => invoked (live.resolve_left nofun)

namespace Played

variable {policy : BreakerPolicy} {r r' : Round} {m : Nat × Probe × Moment}

theorem eq_of_not_live (h : Played policy r m r') (dead : ¬ r.IsLive m) : r' = r := by
  cases h with
  | nothing => rfl
  | letThrough | turnedAway => exact absurd (.inl rfl) dead
  | reported notice invoked => exact absurd (.inr invoked) dead
  | settled invoked => exact absurd (.inr invoked) dead

/-- A live moment moves the clock to its instant. -/
theorem clock (h : Played policy r m r') (live : r.IsLive m) :
    r'.clock = r.clock.waitUntil m.1 := by
  cases h with
  | nothing dead => exact absurd live dead
  | letThrough => rfl
  | turnedAway => rw [clock_conclude]; rfl
  | reported => rfl
  | settled => rw [settle_eq, clock_conclude]; rfl

theorem now_le (h : Played policy r m r') : r.clock.now ≤ r'.clock.now := by
  by_cases live : r.IsLive m
  · rw [h.clock live]
    exact Nat.le_max_left _ _
  · exact Nat.le_of_eq (congrArg (fun r => r.clock.now) (h.eq_of_not_live live).symm)

/-! ## What a moment leaves alone -/

section Others

variable {other : String}

theorem services_ne (h : Played policy r m r') (ne : other ≠ m.2.1.name) :
    r'.services.get? other = r.services.get? other := by
  cases h with
  | nothing => rfl
  | letThrough => rfl
  | turnedAway => rw [services_conclude]; exact NameMap.get?_insert_ne _ ne _
  | reported => rfl
  | settled => rw [settle_eq, services_conclude]; exact NameMap.get?_insert_ne _ ne _

theorem invocations_ne (h : Played policy r m r') (ne : other ≠ m.2.1.name) :
    r'.invocations.get? other = r.invocations.get? other := by
  cases h with
  | nothing => rfl
  | letThrough => exact NameMap.get?_insert_ne _ ne _
  | turnedAway => rw [invocations_conclude]; rfl
  | reported => rfl
  | settled => rw [settle_eq, invocations_conclude]; rfl

theorem breaker_ne (h : Played policy r m r') (ne : other ≠ m.2.1.name) :
    r'.registry.get? (checkBreaker other) = r.registry.get? (checkBreaker other) := by
  have ne : checkBreaker other ≠ checkBreaker m.2.1.name := fun eq => ne (checkBreaker_injective eq)
  cases h with
  | nothing => rfl
  | letThrough => exact Registry.get?_ask_ne _ _ ne _
  | turnedAway => rw [registry_conclude]; exact Registry.get?_ask_ne _ _ ne _
  | reported => rfl
  | settled => rw [settle_eq, registry_conclude]; exact Registry.get?_settle_ne _ _ ne _

end Others

/-- A breaker that exists stays. -/
theorem isSome_breaker (h : Played policy r m r') {name : String}
    (present : (r.registry.get? name).isSome = true) :
    (r'.registry.get? name).isSome = true := by
  cases h with
  | nothing => exact present
  | letThrough => exact Registry.isSome_get?_ask present _ _ _
  | turnedAway => rw [registry_conclude]; exact Registry.isSome_get?_ask present _ _ _
  | reported => exact present
  | settled => rw [settle_eq, registry_conclude]; exact Registry.isSome_get?_settle present _ _ _

end Played

end Round

end Safeguard
