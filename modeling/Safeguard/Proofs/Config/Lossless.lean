import Safeguard.Config.Format
import Safeguard.Proofs.Document.Lossless

/-!
# The written form of a configuration loses nothing

For each part of a configuration, `inMillis` is what its written form keeps: durations without
the part below a millisecond, and everything else as it is. `decode` and `encode` are `Lossless`
up to that. The policies of health checks are written in full and read as overrides of their own
defaults; what is written in full overrides everything.
-/

namespace Safeguard

open Document Lossless

variable (surplus : Surplus)

/-! ## Policies of breakers -/

namespace BreakerPolicy

/-- The policy with durations in whole milliseconds. -/
def inMillis (p : BreakerPolicy) : BreakerPolicy :=
  { p with
    recoveryTimeout := truncatedToMillis p.recoveryTimeout
    monitoringPeriod := truncatedToMillis p.monitoringPeriod }

/-- A policy without infinite doubles. -/
def FiniteFloats (p : BreakerPolicy) : Prop := p.expectedErrorRate.isFinite = true

instance : DecidablePred FiniteFloats := fun p =>
  inferInstanceAs (Decidable (p.expectedErrorRate.isFinite = true))

theorem isJson_encode {p : BreakerPolicy} (finite : p.FiniteFloats) : p.encode.IsJson := by
  have rate : p.expectedErrorRate.isFinite = true := finite
  simp [encode, rate]

theorem lossless : Lossless (decode surplus) encode inMillis FiniteFloats where
  read_write p := by
    refine bind_eq_some rfl ?_
    refine bind_eq_some (word32.read_write _) ?_
    refine bind_eq_some (millis.read_write _) ?_
    refine bind_eq_some (millis.read_write _) ?_
    exact bind_eq_some (float.read_write _) rfl
  isJson_write := isJson_encode
  of_read json read := by
    simp only [decode, Option.bind_eq_bind, Option.bind_eq_some_iff, Option.some.injEq] at read
    obtain ⟨r, fields, _, -, recovery, hrecovery, period, hperiod, rate, hrate, rfl⟩ := read
    have slots := isJson_of_record? json fields
    have settled_recovery := (millis.of_withDefault (by decide) (slots _) hrecovery).2
    have settled_period := (millis.of_withDefault (by decide) (slots _) hperiod).2
    have finite_rate := (float.of_withDefault (by decide) (slots _) hrate).1
    exact ⟨finite_rate, by simp only [inMillis, settled_recovery, settled_period]⟩

end BreakerPolicy

namespace BreakerOverride

/-- An override that sets no infinite double. -/
def FiniteFloats (o : BreakerOverride) : Prop := ∀ x ∈ o.expectedErrorRate, x.isFinite = true

theorem lossless : Lossless (decode surplus) encode id FiniteFloats where
  read_write o := by
    refine bind_eq_some rfl ?_
    refine bind_eq_some ((word32.optional_id nofun).read_write _) ?_
    refine bind_eq_some ((word64.optional_id nofun).read_write _) ?_
    refine bind_eq_some ((word64.optional_id nofun).read_write _) ?_
    exact bind_eq_some ((float.optional_id nofun).read_write _) rfl
  isJson_write {o} finite := by
    have rate : ∀ x ∈ o.expectedErrorRate, x.isFinite = true := finite
    simpa [encode] using rate
  of_read json read := by
    simp only [decode, Option.bind_eq_bind, Option.bind_eq_some_iff, Option.some.injEq] at read
    obtain ⟨r, fields, _, -, _, -, _, -, rate, hrate, rfl⟩ := read
    have slots := isJson_of_record? json fields
    exact ⟨(float.of_optional nofun (slots _) hrate).1, rfl⟩

end BreakerOverride

/-! ## Policies of retries -/

namespace RetryPolicy

/-- The policy with durations in whole milliseconds. -/
def inMillis (p : RetryPolicy) : RetryPolicy :=
  { p with
    baseDelay := truncatedToMillis p.baseDelay
    maxDelay := truncatedToMillis p.maxDelay
    maxElapsed := p.maxElapsed.map truncatedToMillis }

/-- A policy without infinite doubles. -/
def FiniteFloats (p : RetryPolicy) : Prop := p.multiplier.isFinite = true

instance : DecidablePred FiniteFloats := fun p =>
  inferInstanceAs (Decidable (p.multiplier.isFinite = true))

theorem isJson_encode {p : RetryPolicy} (finite : p.FiniteFloats) : p.encode.IsJson := by
  have multiplier : p.multiplier.isFinite = true := finite
  rw [encode, isJson_table_iff, List.forall_mem_append]
  refine ⟨by simp [multiplier], ?_⟩
  split <;> simp

/-- What a retry policy is written as, read with what it has for each field. -/
theorem decode_encode (p : RetryPolicy) : decode surplus p.encode = some p.inMillis := by
  obtain ⟨_, _, _, _, _, _, maxElapsed⟩ := p
  refine bind_eq_some rfl ?_
  refine bind_eq_some (word32.read_write _) ?_
  refine bind_eq_some (millis.read_write _) ?_
  refine bind_eq_some (millis.read_write _) ?_
  refine bind_eq_some (float.read_write _) ?_
  refine bind_eq_some (bool.read_write _) ?_
  refine bind_eq_some (texts.read_write _) ?_
  cases maxElapsed with
  | none => rfl
  | some d => exact bind_eq_some ((millis.optional nofun).read_write (some d)) rfl

theorem lossless : Lossless (decode surplus) encode inMillis FiniteFloats where
  read_write := decode_encode surplus
  isJson_write := isJson_encode
  of_read json read := by
    simp only [decode, Option.bind_eq_bind, Option.bind_eq_some_iff, Option.some.injEq] at read
    obtain ⟨r, fields, _, -, base, hbase, most, hmost, multiplier, hmultiplier, _, -, _, -,
      elapsed, helapsed, rfl⟩ := read
    have slots := isJson_of_record? json fields
    have settled_base := (millis.of_withDefault (by decide) (slots _) hbase).2
    have settled_most := (millis.of_withDefault (by decide) (slots _) hmost).2
    have finite_multiplier := (float.of_withDefault (by decide) (slots _) hmultiplier).1
    have settled_elapsed := (millis.of_optional nofun (slots _) helapsed).2
    exact ⟨finite_multiplier, by simp only [inMillis, settled_base, settled_most, settled_elapsed]⟩

end RetryPolicy

namespace RetryOverride

/-- An override that sets no infinite double. -/
def FiniteFloats (o : RetryOverride) : Prop := ∀ x ∈ o.multiplier, x.isFinite = true

theorem lossless : Lossless (decode surplus) encode id FiniteFloats where
  read_write o := by
    refine bind_eq_some rfl ?_
    refine bind_eq_some ((word32.optional_id nofun).read_write _) ?_
    refine bind_eq_some ((word64.optional_id nofun).read_write _) ?_
    refine bind_eq_some ((word64.optional_id nofun).read_write _) ?_
    refine bind_eq_some ((float.optional_id nofun).read_write _) ?_
    refine bind_eq_some ((bool.optional_id nofun).read_write _) ?_
    refine bind_eq_some ((texts.optional_id nofun).read_write _) ?_
    exact bind_eq_some ((word64.optional_id nofun).read_write _) rfl
  isJson_write {o} finite := by
    have multiplier : ∀ x ∈ o.multiplier, x.isFinite = true := finite
    simpa [encode] using multiplier
  of_read json read := by
    simp only [decode, Option.bind_eq_bind, Option.bind_eq_some_iff, Option.some.injEq] at read
    obtain ⟨r, fields, _, -, _, -, _, -, multiplier, hmultiplier, _, -, _, -, _, -, rfl⟩ := read
    have slots := isJson_of_record? json fields
    exact ⟨(float.of_optional nofun (slots _) hmultiplier).1, rfl⟩

end RetryOverride

/-! ## Policies that are read as overrides -/

namespace BreakerPolicy

/-- The override that sets everything to what a policy has, as far as milliseconds can. -/
def asOverride (p : BreakerPolicy) : BreakerOverride where
  failureThreshold := some p.failureThreshold
  recoveryTimeout := some (wholeMillis p.recoveryTimeout)
  monitoringPeriod := some (wholeMillis p.monitoringPeriod)
  expectedErrorRate := some p.expectedErrorRate

/-- A policy that is written in full overrides everything. -/
theorem overriddenBy_asOverride (base p : BreakerPolicy) :
    base.overriddenBy p.asOverride = p.inMillis := by
  simp [overriddenBy, asOverride, inMillis, ofMillis_wholeMillis]

theorem override_of_encode (p : BreakerPolicy) :
    BreakerOverride.decode surplus p.encode = some p.asOverride := by
  refine bind_eq_some rfl ?_
  refine bind_eq_some ((word32.optional_id nofun).read_write (some _)) ?_
  refine bind_eq_some ((word64.optional_id nofun).read_write (some (wholeMillis _))) ?_
  refine bind_eq_some ((word64.optional_id nofun).read_write (some (wholeMillis _))) ?_
  exact bind_eq_some ((float.optional_id nofun).read_write (some _)) rfl

/-- An override sets whole milliseconds and, if read from JSON, finite doubles. -/
theorem settled_overriddenBy {p : BreakerPolicy} (of_base : p.FiniteFloats ∧ p.inMillis = p)
    {o : BreakerOverride} (finite : o.FiniteFloats) :
    (p.overriddenBy o).FiniteFloats ∧ (p.overriddenBy o).inMillis = p.overriddenBy o := by
  obtain ⟨finite_base, settled⟩ := of_base
  have settled_recovery : truncatedToMillis p.recoveryTimeout = p.recoveryTimeout :=
    congrArg recoveryTimeout settled
  have settled_period : truncatedToMillis p.monitoringPeriod = p.monitoringPeriod :=
    congrArg monitoringPeriod settled
  obtain ⟨_, recovery, period, rate⟩ := o
  refine ⟨?_, ?_⟩
  · cases rate with
    | none => exact finite_base
    | some x => exact finite x rfl
  · cases recovery <;> cases period <;>
      simp [inMillis, overriddenBy, settled_recovery, settled_period]

end BreakerPolicy

namespace RetryPolicy

/-- The override that sets everything to what a policy has, as far as milliseconds can. -/
def asOverride (p : RetryPolicy) : RetryOverride where
  maxAttempts := some p.maxAttempts
  baseDelay := some (wholeMillis p.baseDelay)
  maxDelay := some (wholeMillis p.maxDelay)
  multiplier := some p.multiplier
  jitter := some p.jitter
  markers := some p.markers
  maxElapsed := p.maxElapsed.map wholeMillis

/-- A policy that is written in full overrides everything, up to the time budget that it may lack:
the policy that is overridden must have none. -/
theorem overriddenBy_asOverride {base : RetryPolicy} (no_budget : base.maxElapsed = none)
    (p : RetryPolicy) : base.overriddenBy p.asOverride = p.inMillis := by
  simp [overriddenBy, asOverride, inMillis, ofMillis_wholeMillis, no_budget, Function.comp_def]

theorem override_of_encode (p : RetryPolicy) :
    RetryOverride.decode surplus p.encode = some p.asOverride := by
  obtain ⟨_, _, _, _, _, _, maxElapsed⟩ := p
  refine bind_eq_some rfl ?_
  refine bind_eq_some ((word32.optional_id nofun).read_write (some _)) ?_
  refine bind_eq_some ((word64.optional_id nofun).read_write (some (wholeMillis _))) ?_
  refine bind_eq_some ((word64.optional_id nofun).read_write (some (wholeMillis _))) ?_
  refine bind_eq_some ((float.optional_id nofun).read_write (some _)) ?_
  refine bind_eq_some ((bool.optional_id nofun).read_write (some _)) ?_
  refine bind_eq_some ((texts.optional_id nofun).read_write (some _)) ?_
  cases maxElapsed with
  | none => rfl
  | some d =>
    exact bind_eq_some ((word64.optional_id nofun).read_write (some (wholeMillis d))) rfl

/-- An override sets whole milliseconds and, if read from JSON, finite doubles. -/
theorem settled_overriddenBy {p : RetryPolicy} (of_base : p.FiniteFloats ∧ p.inMillis = p)
    {o : RetryOverride} (finite : o.FiniteFloats) :
    (p.overriddenBy o).FiniteFloats ∧ (p.overriddenBy o).inMillis = p.overriddenBy o := by
  obtain ⟨finite_base, settled⟩ := of_base
  have settled_base : truncatedToMillis p.baseDelay = p.baseDelay := congrArg baseDelay settled
  have settled_most : truncatedToMillis p.maxDelay = p.maxDelay := congrArg maxDelay settled
  have settled_elapsed : p.maxElapsed.map truncatedToMillis = p.maxElapsed :=
    congrArg maxElapsed settled
  obtain ⟨_, base, most, multiplier, _, _, elapsed⟩ := o
  refine ⟨?_, ?_⟩
  · cases multiplier with
    | none => exact finite_base
    | some x => exact finite x rfl
  · cases base <;> cases most <;> cases elapsed <;>
      simp [inMillis, overriddenBy, settled_base, settled_most, settled_elapsed]

end RetryPolicy

/-! ## Health checks -/

theorem CheckTarget.lossless : Lossless (decode surplus) encode id fun _ => True where
  read_write t := by
    refine bind_eq_some rfl ?_
    refine bind_eq_some (text.read_write _) ?_
    refine bind_eq_some (text.read_write _) ?_
    exact bind_eq_some (word64.read_write _) rfl
  isJson_write _ := by simp [encode]
  of_read _ _ := ⟨trivial, rfl⟩

namespace HealthSettings

/-- The settings with durations in whole milliseconds. -/
def inMillis (h : HealthSettings) : HealthSettings :=
  { h with breaker := h.breaker.inMillis, retry := h.retry.inMillis }

/-- Settings without infinite doubles. -/
def FiniteFloats (h : HealthSettings) : Prop := h.breaker.FiniteFloats ∧ h.retry.FiniteFloats

instance : DecidablePred FiniteFloats := fun h =>
  inferInstanceAs (Decidable (h.breaker.FiniteFloats ∧ h.retry.FiniteFloats))

theorem lossless_breaker : Lossless (decodeBreaker surplus) BreakerPolicy.encode
    BreakerPolicy.inMillis BreakerPolicy.FiniteFloats where
  read_write p := by
    rw [decodeBreaker, BreakerPolicy.override_of_encode, Option.map_some,
      BreakerPolicy.overriddenBy_asOverride]
  isJson_write := BreakerPolicy.isJson_encode
  of_read json read := by
    obtain ⟨o, override, rfl⟩ := Option.map_eq_some_iff.1 read
    have finite := ((BreakerOverride.lossless surplus).of_read json override).1
    exact BreakerPolicy.settled_overriddenBy ⟨by decide, rfl⟩ finite

theorem lossless_retry : Lossless (decodeRetry surplus) RetryPolicy.encode
    RetryPolicy.inMillis RetryPolicy.FiniteFloats where
  read_write p := by
    rw [decodeRetry, RetryPolicy.override_of_encode, Option.map_some,
      RetryPolicy.overriddenBy_asOverride rfl]
  isJson_write := RetryPolicy.isJson_encode
  of_read json read := by
    obtain ⟨o, override, rfl⟩ := Option.map_eq_some_iff.1 read
    have finite := ((RetryOverride.lossless surplus).of_read json override).1
    exact RetryPolicy.settled_overriddenBy ⟨by decide, rfl⟩ finite

theorem lossless : Lossless (decode surplus) encode inMillis FiniteFloats where
  read_write h := by
    refine bind_eq_some rfl ?_
    refine bind_eq_some ((lossless_breaker surplus).read_write _) ?_
    refine bind_eq_some ((lossless_retry surplus).read_write _) ?_
    refine bind_eq_some (bool.read_write _) ?_
    refine bind_eq_some ((CheckTarget.lossless surplus).list.read_write _) ?_
    rw [List.map_id]
    rfl
  isJson_write finite := by
    simp [encode, BreakerPolicy.isJson_encode finite.1, RetryPolicy.isJson_encode finite.2,
      (CheckTarget.lossless surplus).isJson_write]
  of_read json read := by
    simp only [decode, Option.bind_eq_bind, Option.bind_eq_some_iff, Option.some.injEq] at read
    obtain ⟨r, fields, breaker, hbreaker, retry, hretry, _, -, _, -, rfl⟩ := read
    have slots := isJson_of_record? json fields
    obtain ⟨finite_breaker, settled_breaker⟩ :=
      (lossless_breaker surplus).of_withDefault ⟨by decide, rfl⟩ (slots _) hbreaker
    obtain ⟨finite_retry, settled_retry⟩ :=
      (lossless_retry surplus).of_withDefault ⟨by decide, rfl⟩ (slots _) hretry
    exact ⟨⟨finite_breaker, finite_retry⟩, by simp only [inMillis, settled_breaker, settled_retry]⟩

end HealthSettings

/-! ## Logs, metrics and the admin interface -/

theorem ObservabilitySettings.lossless : Lossless (decode surplus) encode id fun _ => True where
  read_write o := by
    refine bind_eq_some rfl ?_
    refine bind_eq_some (text.read_write _) ?_
    refine bind_eq_some (bool.read_write _) ?_
    refine bind_eq_some (bool.read_write _) ?_
    exact bind_eq_some (text.read_write _) rfl
  isJson_write _ := by simp [encode]
  of_read _ _ := ⟨trivial, rfl⟩

theorem AdminSettings.lossless : Lossless (decode surplus) encode id fun _ => True where
  read_write a := by
    refine bind_eq_some rfl ?_
    refine bind_eq_some (bool.read_write _) ?_
    refine bind_eq_some (text.read_write _) ?_
    exact bind_eq_some ((text.optional_id nofun).read_write _) rfl
  isJson_write _ := by simp [encode]
  of_read _ _ := ⟨trivial, rfl⟩

/-! ## The whole configuration -/

namespace Configuration

/-- The configuration with durations in whole milliseconds. -/
def inMillis (c : Configuration) : Configuration :=
  { c with
    breaker := c.breaker.inMillis
    retries := c.retries.inMillis
    health := c.health.inMillis }

/-- A configuration without infinite doubles. -/
structure FiniteFloats (c : Configuration) : Prop where
  breaker : c.breaker.FiniteFloats
  retries : c.retries.FiniteFloats
  health : c.health.FiniteFloats
  dependencies : ∀ e ∈ c.dependencies.entries, e.2.FiniteFloats

theorem lossless_dependencies : Lossless (decodeDependencies surplus) encodeDependencies
    (NameMap.map fun _ => id) fun m => ∀ e ∈ m.entries, e.2.FiniteFloats :=
  (BreakerOverride.lossless surplus).byName

theorem lossless : Lossless (decode surplus) encode inMillis FiniteFloats where
  read_write c := by
    refine bind_eq_some rfl ?_
    refine bind_eq_some ((BreakerPolicy.lossless surplus).read_write _) ?_
    refine bind_eq_some ((RetryPolicy.lossless surplus).read_write _) ?_
    refine bind_eq_some ((HealthSettings.lossless surplus).read_write _) ?_
    refine bind_eq_some ((lossless_dependencies surplus).read_write _) ?_
    refine bind_eq_some ((ObservabilitySettings.lossless surplus).read_write _) ?_
    refine bind_eq_some ((AdminSettings.lossless surplus).read_write _) ?_
    rw [NameMap.map_id]
    rfl
  isJson_write finite := by
    simp [encode, (BreakerPolicy.lossless surplus).isJson_write finite.breaker,
      (RetryPolicy.lossless surplus).isJson_write finite.retries,
      (HealthSettings.lossless surplus).isJson_write finite.health,
      (lossless_dependencies surplus).isJson_write finite.dependencies,
      (ObservabilitySettings.lossless surplus).isJson_write,
      (AdminSettings.lossless surplus).isJson_write]
  of_read json read := by
    simp only [decode, Option.bind_eq_bind, Option.bind_eq_some_iff, Option.some.injEq] at read
    obtain ⟨r, fields, breaker, hbreaker, retries, hretries, health, hhealth, dependencies,
      hdependencies, _, -, _, -, rfl⟩ := read
    have slots := isJson_of_record? json fields
    obtain ⟨finite_breaker, settled_breaker⟩ :=
      (BreakerPolicy.lossless surplus).of_withDefault ⟨by decide, rfl⟩ (slots _) hbreaker
    obtain ⟨finite_retries, settled_retries⟩ :=
      (RetryPolicy.lossless surplus).of_withDefault ⟨by decide, rfl⟩ (slots _) hretries
    obtain ⟨finite_health, settled_health⟩ :=
      (HealthSettings.lossless surplus).of_withDefault ⟨by decide, rfl⟩ (slots _) hhealth
    have finite_dependencies := ((lossless_dependencies surplus).of_withDefault
      ⟨fun _ mem => absurd mem List.not_mem_nil, rfl⟩ (slots _) hdependencies).1
    exact ⟨⟨finite_breaker, finite_retries, finite_health, finite_dependencies⟩,
      by simp only [inMillis, settled_breaker, settled_retries, settled_health]⟩

end Configuration

end Safeguard
