import Safeguard.Config.Format
import Safeguard.Proofs.Document.Path

/-!
# The keys of a configuration

A `Key` is a place where a document may give one value of a configuration: it has a path, and a
default for documents that give nothing there. The policies of breakers and retries have the same
keys wherever they stand, but those of health checks have defaults of their own, and null is the
same as nothing for them. A configuration that is read from tables has, key by key, the value at
the key's own path or the default, so a change at one path changes no other key
(`Configuration.read_key_by_key`).
-/

namespace Safeguard

open Document

/-! ## Keys of policies -/

/-- The keys of a breaker's policy. -/
inductive BreakerKey
  | failureThreshold
  | recoveryTimeout
  | monitoringPeriod
  | expectedErrorRate
  deriving DecidableEq

namespace BreakerKey

/-- What a key stands for. -/
abbrev Value : BreakerKey → Type
  | failureThreshold => UInt32
  | recoveryTimeout => Nat
  | monitoringPeriod => Nat
  | expectedErrorRate => Float

/-- The name of a key in its table. -/
def name : BreakerKey → String
  | failureThreshold => "failure_threshold"
  | recoveryTimeout => "recovery_timeout_ms"
  | monitoringPeriod => "monitoring_period_ms"
  | expectedErrorRate => "expected_error_rate"

/-- The value that a document stands for. -/
def read : (k : BreakerKey) → Document → Option k.Value
  | failureThreshold => asWord32?
  | recoveryTimeout => asMillis?
  | monitoringPeriod => asMillis?
  | expectedErrorRate => asFloat?

/-- What a policy has for a key. -/
def field (p : BreakerPolicy) : (k : BreakerKey) → k.Value
  | failureThreshold => p.failureThreshold
  | recoveryTimeout => p.recoveryTimeout
  | monitoringPeriod => p.monitoringPeriod
  | expectedErrorRate => p.expectedErrorRate

end BreakerKey

/-- The keys of a retry policy. -/
inductive RetryKey
  | maxAttempts
  | baseDelay
  | maxDelay
  | multiplier
  | jitter
  | markers
  | maxElapsed
  deriving DecidableEq

namespace RetryKey

/-- What a key stands for. -/
abbrev Value : RetryKey → Type
  | maxAttempts => UInt32
  | baseDelay => Nat
  | maxDelay => Nat
  | multiplier => Float
  | jitter => Bool
  | markers => List String
  | maxElapsed => Option Nat

/-- The name of a key in its table. -/
def name : RetryKey → String
  | maxAttempts => "max_attempts"
  | baseDelay => "base_delay_ms"
  | maxDelay => "max_delay_ms"
  | multiplier => "backoff_multiplier"
  | jitter => "jitter"
  | markers => "retryable_markers"
  | maxElapsed => "max_elapsed_ms"

/-- The value that a document stands for. -/
def read : (k : RetryKey) → Document → Option k.Value
  | maxAttempts => asWord32?
  | baseDelay => asMillis?
  | maxDelay => asMillis?
  | multiplier => asFloat?
  | jitter => asBool?
  | markers => asList? asText?
  | maxElapsed => asOptional? asMillis?

/-- What a policy has for a key. -/
def field (p : RetryPolicy) : (k : RetryKey) → k.Value
  | maxAttempts => p.maxAttempts
  | baseDelay => p.baseDelay
  | maxDelay => p.maxDelay
  | multiplier => p.multiplier
  | jitter => p.jitter
  | markers => p.markers
  | maxElapsed => p.maxElapsed

end RetryKey

/-! ## Keys of settings -/

/-- The keys of the settings of logs and metrics. -/
inductive ObservabilityKey
  | logLevel
  | jsonLogs
  | metricsEnabled
  | metricsAddress
  deriving DecidableEq

namespace ObservabilityKey

/-- What a key stands for. -/
abbrev Value : ObservabilityKey → Type
  | logLevel => String
  | jsonLogs => Bool
  | metricsEnabled => Bool
  | metricsAddress => String

/-- The name of a key in its table. -/
def name : ObservabilityKey → String
  | logLevel => "log_level"
  | jsonLogs => "json_logs"
  | metricsEnabled => "metrics_enabled"
  | metricsAddress => "metrics_address"

/-- The value that a document stands for. -/
def read : (k : ObservabilityKey) → Document → Option k.Value
  | logLevel => asText?
  | jsonLogs => asBool?
  | metricsEnabled => asBool?
  | metricsAddress => asText?

/-- What settings have for a key. -/
def field (o : ObservabilitySettings) : (k : ObservabilityKey) → k.Value
  | logLevel => o.logLevel
  | jsonLogs => o.jsonLogs
  | metricsEnabled => o.metricsEnabled
  | metricsAddress => o.metricsAddress

end ObservabilityKey

/-- The keys of the settings of the admin interface. -/
inductive AdminKey
  | enabled
  | bindAddress
  | apiKey
  deriving DecidableEq

namespace AdminKey

/-- What a key stands for. -/
abbrev Value : AdminKey → Type
  | enabled => Bool
  | bindAddress => String
  | apiKey => Option String

/-- The name of a key in its table. -/
def name : AdminKey → String
  | enabled => "enabled"
  | bindAddress => "bind_address"
  | apiKey => "api_key"

/-- The value that a document stands for. -/
def read : (k : AdminKey) → Document → Option k.Value
  | enabled => asBool?
  | bindAddress => asText?
  | apiKey => asOptional? asText?

/-- What settings have for a key. -/
def field (a : AdminSettings) : (k : AdminKey) → k.Value
  | enabled => a.enabled
  | bindAddress => a.bindAddress
  | apiKey => a.apiKey

end AdminKey

/-! ## Keys of a configuration -/

/-- A key, with the place where it stands. -/
inductive Key
  | breaker (k : BreakerKey)
  | retries (k : RetryKey)
  | healthBreaker (k : BreakerKey)
  | healthRetry (k : RetryKey)
  | concurrent
  | checks
  | observability (k : ObservabilityKey)
  | admin (k : AdminKey)
  deriving DecidableEq

namespace Key

/-- What a key stands for. -/
abbrev Value : Key → Type
  | breaker k | healthBreaker k => k.Value
  | retries k | healthRetry k => k.Value
  | concurrent => Bool
  | checks => List CheckTarget
  | observability k => k.Value
  | admin k => k.Value

/-- The path of a key. -/
def path : Key → List String
  | breaker k => ["circuit_breaker", k.name]
  | retries k => ["retries", k.name]
  | healthBreaker k => ["health", "breaker", k.name]
  | healthRetry k => ["health", "retry", k.name]
  | concurrent => ["health", "concurrent"]
  | checks => ["health", "checks"]
  | observability k => ["observability", k.name]
  | admin k => ["admin", k.name]

/-- The value that a document stands for. -/
def read (surplus : Surplus) : (k : Key) → Document → Option k.Value
  | breaker k | healthBreaker k => k.read
  | retries k | healthRetry k => k.read
  | concurrent => asBool?
  | checks => asList? (CheckTarget.decode surplus)
  | observability k => k.read
  | admin k => k.read

/-- The value of a key that is left out. -/
def default : (k : Key) → k.Value
  | breaker k => k.field {}
  | retries k => k.field {}
  | healthBreaker k => k.field .forHealthChecks
  | healthRetry k => k.field .forHealthChecks
  | concurrent => true
  | checks => []
  | observability k => k.field {}
  | admin k => k.field {}

/-- What a configuration has for a key. -/
def field (c : Configuration) : (k : Key) → k.Value
  | breaker k => k.field c.breaker
  | retries k => k.field c.retries
  | healthBreaker k => k.field c.health.breaker
  | healthRetry k => k.field c.health.retry
  | concurrent => c.health.concurrent
  | checks => c.health.checks
  | observability k => k.field c.observability
  | admin k => k.field c.admin

/-- Whether null is the same as nothing for a key. -/
def ignoresNull : Key → Bool
  | healthBreaker _ | healthRetry _ => true
  | _ => false

/-- What a document gives for a key: the value at its path, unless that is null and the key ignores
null. -/
def given? (k : Key) (d : Document) : Option Document :=
  (d.at? k.path).filter fun v => !(k.ignoresNull && v.isNull)

end Key

/-! ## Reading policies and settings -/

section Tables

variable {surplus : Surplus} {d : Document}

/-- A breaker's policy is read key by key. -/
theorem BreakerKey.filled {p : BreakerPolicy} (table : d.IsTable)
    (decoded : BreakerPolicy.decode surplus d = some p) (k : BreakerKey) :
    Filled k.read (k.field {}) (d.get? k.name) (k.field p) := by
  simp only [BreakerPolicy.decode, Option.bind_eq_bind, Option.bind_eq_some_iff,
    Option.some.injEq] at decoded
  obtain ⟨r, fields, _, threshold, _, recovery, _, period, _, rate, rfl⟩ := decoded
  cases k with
  | failureThreshold => exact filled_of_withDefault table fields threshold
  | recoveryTimeout => exact filled_of_withDefault table fields recovery
  | monitoringPeriod => exact filled_of_withDefault table fields period
  | expectedErrorRate => exact filled_of_withDefault table fields rate

/-- A breaker's policy that is overridden keeps what is left out or null. -/
theorem BreakerKey.filled_overriddenBy {o : BreakerOverride} (base : BreakerPolicy)
    (table : d.IsTable) (decoded : BreakerOverride.decode surplus d = some o) (k : BreakerKey) :
    Filled k.read (k.field base) ((d.get? k.name).filter fun v => !v.isNull)
      (k.field (base.overriddenBy o)) := by
  simp only [BreakerOverride.decode, Option.bind_eq_bind, Option.bind_eq_some_iff,
    Option.some.injEq] at decoded
  obtain ⟨r, fields, _, threshold, _, recovery, _, period, _, rate, rfl⟩ := decoded
  cases k with
  | failureThreshold => exact filled_of_optional_self table fields threshold
  | recoveryTimeout => exact filled_of_optional ofMillis (fun _ _ => rfl) table fields recovery
  | monitoringPeriod => exact filled_of_optional ofMillis (fun _ _ => rfl) table fields period
  | expectedErrorRate => exact filled_of_optional_self table fields rate

/-- A retry policy is read key by key. -/
theorem RetryKey.filled {p : RetryPolicy} (table : d.IsTable)
    (decoded : RetryPolicy.decode surplus d = some p) (k : RetryKey) :
    Filled k.read (k.field {}) (d.get? k.name) (k.field p) := by
  simp only [RetryPolicy.decode, Option.bind_eq_bind, Option.bind_eq_some_iff,
    Option.some.injEq] at decoded
  obtain ⟨r, fields, _, attempts, _, base, _, most, _, multiplier, _, jitter, _, markers, _,
    elapsed, rfl⟩ := decoded
  cases k with
  | maxAttempts => exact filled_of_withDefault table fields attempts
  | baseDelay => exact filled_of_withDefault table fields base
  | maxDelay => exact filled_of_withDefault table fields most
  | multiplier => exact filled_of_withDefault table fields multiplier
  | jitter => exact filled_of_withDefault table fields jitter
  | markers => exact filled_of_withDefault table fields markers
  | maxElapsed => exact filled_of_withDefault table fields elapsed

/-- A retry policy that is overridden keeps what is left out or null. -/
theorem RetryKey.filled_overriddenBy {o : RetryOverride} (base : RetryPolicy) (table : d.IsTable)
    (decoded : RetryOverride.decode surplus d = some o) (k : RetryKey) :
    Filled k.read (k.field base) ((d.get? k.name).filter fun v => !v.isNull)
      (k.field (base.overriddenBy o)) := by
  simp only [RetryOverride.decode, Option.bind_eq_bind, Option.bind_eq_some_iff,
    Option.some.injEq] at decoded
  obtain ⟨r, fields, _, attempts, _, first, _, most, _, multiplier, _, jitter, _, markers, elapsed,
    taken, rfl⟩ := decoded
  cases k with
  | maxAttempts => exact filled_of_optional_self table fields attempts
  | baseDelay => exact filled_of_optional ofMillis (fun _ _ => rfl) table fields first
  | maxDelay => exact filled_of_optional ofMillis (fun _ _ => rfl) table fields most
  | multiplier => exact filled_of_optional_self table fields multiplier
  | jitter => exact filled_of_optional_self table fields jitter
  | markers => exact filled_of_optional_self table fields markers
  | maxElapsed =>
    have reads_value : ∀ v, v.isNull = false →
        asOptional? asMillis? v = (asWord64? v).map fun n => some (ofMillis n) := by
      intro v value
      rw [asOptional?_of_isNull_eq_false value, asMillis?, Option.map_map]
      rfl
    have or_eq : (elapsed.map ofMillis).or base.maxElapsed =
        (elapsed.map fun n => some (ofMillis n)).getD base.maxElapsed := by
      cases elapsed <;> rfl
    change Filled _ _ _ ((elapsed.map ofMillis).or base.maxElapsed)
    rw [or_eq]
    exact filled_of_optional _ reads_value table fields taken

/-- The settings of logs and metrics are read key by key. -/
theorem ObservabilityKey.filled {o : ObservabilitySettings} (table : d.IsTable)
    (decoded : ObservabilitySettings.decode surplus d = some o) (k : ObservabilityKey) :
    Filled k.read (k.field {}) (d.get? k.name) (k.field o) := by
  simp only [ObservabilitySettings.decode, Option.bind_eq_bind, Option.bind_eq_some_iff,
    Option.some.injEq] at decoded
  obtain ⟨r, fields, _, level, _, json, _, metrics, _, address, rfl⟩ := decoded
  cases k with
  | logLevel => exact filled_of_withDefault table fields level
  | jsonLogs => exact filled_of_withDefault table fields json
  | metricsEnabled => exact filled_of_withDefault table fields metrics
  | metricsAddress => exact filled_of_withDefault table fields address

/-- The settings of the admin interface are read key by key. -/
theorem AdminKey.filled {a : AdminSettings} (table : d.IsTable)
    (decoded : AdminSettings.decode surplus d = some a) (k : AdminKey) :
    Filled k.read (k.field {}) (d.get? k.name) (k.field a) := by
  simp only [AdminSettings.decode, Option.bind_eq_bind, Option.bind_eq_some_iff,
    Option.some.injEq] at decoded
  obtain ⟨r, fields, _, enabled, _, address, _, key, rfl⟩ := decoded
  cases k with
  | enabled => exact filled_of_withDefault table fields enabled
  | bindAddress => exact filled_of_withDefault table fields address
  | apiKey => exact filled_of_withDefault table fields key

end Tables

/-! ## Reading sections -/

/-- The settings of health checks, part by part. -/
structure HealthSettings.Read (surplus : Surplus) (d : Document) (h : HealthSettings) : Prop where
  breaker : decodeBreaker surplus (d.inner "breaker") = some h.breaker
  retry : decodeRetry surplus (d.inner "retry") = some h.retry
  concurrent : Filled asBool? true (d.get? "concurrent") h.concurrent
  checks : Filled (asList? (CheckTarget.decode surplus)) [] (d.get? "checks") h.checks

theorem HealthSettings.read_of_decode {surplus : Surplus} {d : Document} {h : HealthSettings}
    (table : d.IsTable) (decoded : decode surplus d = some h) : h.Read surplus d := by
  simp only [decode, Option.bind_eq_bind, Option.bind_eq_some_iff, Option.some.injEq] at decoded
  obtain ⟨r, fields, _, breaker, _, retry, _, concurrent, _, checks, rfl⟩ := decoded
  exact {
    breaker := inner_of_withDefault rfl table fields breaker
    retry := inner_of_withDefault rfl table fields retry
    concurrent := filled_of_withDefault table fields concurrent
    checks := filled_of_withDefault table fields checks }

namespace Configuration

/-- A configuration, section by section. -/
structure Read (surplus : Surplus) (d : Document) (c : Configuration) : Prop where
  breaker : BreakerPolicy.decode surplus (d.inner "circuit_breaker") = some c.breaker
  retries : RetryPolicy.decode surplus (d.inner "retries") = some c.retries
  health : HealthSettings.decode surplus (d.inner "health") = some c.health
  dependencies : decodeDependencies surplus (d.inner "dependencies") = some c.dependencies
  observability : ObservabilitySettings.decode surplus (d.inner "observability") =
    some c.observability
  admin : AdminSettings.decode surplus (d.inner "admin") = some c.admin

theorem read_of_decode {surplus : Surplus} {d : Document} {c : Configuration}
    (table : d.IsTable) (decoded : decode surplus d = some c) : c.Read surplus d := by
  simp only [decode, Option.bind_eq_bind, Option.bind_eq_some_iff, Option.some.injEq] at decoded
  obtain ⟨r, fields, _, breaker, _, retries, _, health, _, dependencies, _, observability, _, admin,
    rfl⟩ := decoded
  exact {
    breaker := inner_of_withDefault rfl table fields breaker
    retries := inner_of_withDefault rfl table fields retries
    health := inner_of_withDefault rfl table fields health
    dependencies := inner_of_withDefault rfl table fields dependencies
    observability := inner_of_withDefault rfl table fields observability
    admin := inner_of_withDefault rfl table fields admin }

/-- The paths at which a configuration has tables. -/
def tablePaths : List (List String) :=
  [] :: fieldNames.map (fun name => [name]) ++ [["health", "breaker"], ["health", "retry"]]

/-- A document whose sections and policies are tables, as far as it has them. -/
def InTables (d : Document) : Prop := ∀ path ∈ tablePaths, ∀ v ∈ d.at? path, v.IsTable

instance : DecidablePred InTables := fun d =>
  inferInstanceAs (Decidable (∀ path ∈ tablePaths, ∀ v ∈ d.at? path, v.IsTable))

theorem InTables.isTable {d : Document} (tables : InTables d) : d.IsTable :=
  tables [] List.mem_cons_self d rfl

theorem InTables.isTable_inner {d : Document} (tables : InTables d) {name : String}
    (known : name ∈ fieldNames) : (d.inner name).IsTable :=
  Document.isTable_inner (tables [name] (by simp [tablePaths, known]))

theorem InTables.isTable_health {d : Document} (tables : InTables d) {name : String}
    (known : name ∈ ["breaker", "retry"]) : ((d.inner "health").inner name).IsTable := by
  refine Document.isTable_inner ?_
  rw [← at?_cons_of_ne_nil (List.cons_ne_nil _ _)]
  refine tables ["health", name] (List.mem_append_right _ ?_)
  obtain rfl | rfl := List.mem_pair.mp known
  · exact List.mem_cons_self
  · exact List.mem_cons_of_mem _ List.mem_cons_self

end Configuration

namespace Key

variable {surplus : Surplus} {d : Document} {c : Configuration}

theorem given?_of_pair {k : Key} {name last : String} (path : k.path = [name, last])
    (plain : k.ignoresNull = false) (d : Document) : k.given? d = (d.inner name).get? last := by
  rw [given?, path, plain, at?_pair]
  cases (d.inner name).get? last <;> rfl

theorem given?_of_triple {k : Key} {name next last : String} (path : k.path = [name, next, last])
    (ignores : k.ignoresNull = true) (d : Document) :
    k.given? d = (((d.inner name).inner next).get? last).filter fun v => !v.isNull := by
  rw [given?, path, ignores, at?_cons_of_ne_nil (List.cons_ne_nil _ _), at?_pair]
  rfl

/-- Every key of a configuration is filled from its own path. -/
theorem filled (tables : Configuration.InTables d)
    (decoded : Configuration.decode surplus d = some c) (k : Key) :
    Filled (k.read surplus) k.default (k.given? d) (k.field c) := by
  have read := Configuration.read_of_decode tables.isTable decoded
  have health := HealthSettings.read_of_decode (tables.isTable_inner (by decide)) read.health
  cases k with
  | breaker k =>
    rw [given?_of_pair rfl rfl]
    exact k.filled (tables.isTable_inner (by decide)) read.breaker
  | retries k =>
    rw [given?_of_pair rfl rfl]
    exact k.filled (tables.isTable_inner (by decide)) read.retries
  | healthBreaker k =>
    obtain ⟨o, override, overridden⟩ := Option.map_eq_some_iff.mp health.breaker
    rw [given?_of_triple rfl rfl, field, ← overridden]
    exact k.filled_overriddenBy _ (tables.isTable_health (by decide)) override
  | healthRetry k =>
    obtain ⟨o, override, overridden⟩ := Option.map_eq_some_iff.mp health.retry
    rw [given?_of_triple rfl rfl, field, ← overridden]
    exact k.filled_overriddenBy _ (tables.isTable_health (by decide)) override
  | concurrent =>
    rw [given?_of_pair rfl rfl]
    exact health.concurrent
  | checks =>
    rw [given?_of_pair rfl rfl]
    exact health.checks
  | observability k =>
    rw [given?_of_pair rfl rfl]
    exact k.filled (tables.isTable_inner (by decide)) read.observability
  | admin k =>
    rw [given?_of_pair rfl rfl]
    exact k.filled (tables.isTable_inner (by decide)) read.admin

end Key

/-! ## Changes -/

theorem BreakerKey.name_injective : Function.Injective name := by
  intro k k' same
  cases k <;> cases k' <;> simp [name] at same ⊢

theorem RetryKey.name_injective : Function.Injective name := by
  intro k k' same
  cases k <;> cases k' <;> simp [name] at same ⊢

theorem ObservabilityKey.name_injective : Function.Injective name := by
  intro k k' same
  cases k <;> cases k' <;> simp [name] at same ⊢

theorem AdminKey.name_injective : Function.Injective name := by
  intro k k' same
  cases k <;> cases k' <;> simp [name] at same ⊢

namespace Key

/-- No path of a key leads through that of another one. -/
theorem not_leads_through {k k' : Key} (ne : k ≠ k') : ¬k.path <+: k'.path := by
  intro leads
  cases k <;> cases k' <;> simp [path] at leads
  case breaker.breaker k k' => exact ne (congrArg breaker (BreakerKey.name_injective leads))
  case retries.retries k k' => exact ne (congrArg retries (RetryKey.name_injective leads))
  case healthBreaker.healthBreaker k k' =>
    exact ne (congrArg healthBreaker (BreakerKey.name_injective leads))
  case healthRetry.healthRetry k k' =>
    exact ne (congrArg healthRetry (RetryKey.name_injective leads))
  case observability.observability k k' =>
    exact ne (congrArg observability (ObservabilityKey.name_injective leads))
  case admin.admin k k' => exact ne (congrArg admin (AdminKey.name_injective leads))
  case concurrent.concurrent | checks.checks => exact ne rfl

theorem apart {k k' : Key} (ne : k ≠ k') : Apart k.path k'.path :=
  ⟨not_leads_through ne, not_leads_through ne.symm⟩

theorem apart_dependencies (k : Key) : Apart k.path ["dependencies"] := by
  cases k <;> simp [Apart, path]

theorem path_ne_nil (k : Key) : k.path ≠ [] := by
  cases k <;> exact List.cons_ne_nil _ _

/-- No table stands below a key. -/
theorem not_leads_to_table (k : Key) :
    ∀ path ∈ Configuration.tablePaths, ¬k.path <+: path := by
  cases k <;> simp [Configuration.tablePaths, Configuration.fieldNames, path]

/-- There are tables on the way to every key. -/
theorem leads (tables : Configuration.InTables d) (k : Key) : d.Leads k.path := by
  cases k with
  | breaker | retries | observability | admin | concurrent | checks =>
    exact ⟨tables.isTable, tables.isTable_inner (by decide), trivial⟩
  | healthBreaker | healthRetry =>
    exact ⟨tables.isTable, tables.isTable_inner (by decide), tables.isTable_health (by decide),
      trivial⟩

end Key

/-- The tables stay tables whatever is written for a key. -/
theorem Configuration.InTables.write {d : Document} (tables : InTables d) (k : Key)
    (v : Option Document) : InTables (d.write k.path v) := by
  intro path known
  by_cases on_the_way : path <+: k.path
  · refine isTable_write (k.leads tables) v on_the_way ?_
    rintro rfl
    exact k.not_leads_to_table _ known (List.prefix_refl _)
  · have elsewhere : Apart k.path path := ⟨k.not_leads_to_table path known, on_the_way⟩
    rw [← (sameBeside_write (k.leads tables) v).at?_eq elsewhere]
    exact tables path known

section Changes

variable {surplus : Surplus} {d d' : Document} {c c' : Configuration}
  (tables : Configuration.InTables d) (decoded : Configuration.decode surplus d = some c)
  (tables' : Configuration.InTables d') (decoded' : Configuration.decode surplus d' = some c')
  {path : List String} (same : SameBeside path d d')

include tables decoded tables' decoded' same

/-- A change at a path leaves every key alone that stands elsewhere. -/
theorem Key.field_eq_of_sameBeside {k : Key} (elsewhere : Apart path k.path) :
    k.field c' = k.field c := by
  have given : k.given? d' = k.given? d := by rw [given?, given?, same.at?_eq elsewhere]
  exact (given ▸ filled tables' decoded' k).unique (filled tables decoded k)

theorem Configuration.dependencies_eq_of_sameBeside (elsewhere : Apart path ["dependencies"]) :
    c'.dependencies = c.dependencies := by
  have there := same.at?_eq elsewhere
  rw [at?_singleton, at?_singleton] at there
  have read := (read_of_decode tables.isTable decoded).dependencies
  have read' := (read_of_decode tables'.isTable decoded').dependencies
  rw [Document.inner, ← there] at read'
  exact Option.some.inj (read'.symm.trans read)

end Changes

/-! ## All keys -/

theorem BreakerPolicy.eq_of_fields {p p' : BreakerPolicy}
    (same : ∀ k : BreakerKey, k.field p = k.field p') : p = p' := by
  cases p
  cases p'
  congr
  exacts [same .failureThreshold, same .recoveryTimeout, same .monitoringPeriod,
    same .expectedErrorRate]

theorem RetryPolicy.eq_of_fields {p p' : RetryPolicy}
    (same : ∀ k : RetryKey, k.field p = k.field p') : p = p' := by
  cases p
  cases p'
  congr
  exacts [same .maxAttempts, same .baseDelay, same .maxDelay, same .multiplier, same .jitter,
    same .markers, same .maxElapsed]

theorem ObservabilitySettings.eq_of_fields {o o' : ObservabilitySettings}
    (same : ∀ k : ObservabilityKey, k.field o = k.field o') : o = o' := by
  cases o
  cases o'
  congr
  exacts [same .logLevel, same .jsonLogs, same .metricsEnabled, same .metricsAddress]

theorem AdminSettings.eq_of_fields {a a' : AdminSettings}
    (same : ∀ k : AdminKey, k.field a = k.field a') : a = a' := by
  cases a
  cases a'
  congr
  exacts [same .enabled, same .bindAddress, same .apiKey]

/-- The keys and the overrides of dependencies are all that there is to a configuration. -/
theorem Configuration.eq_of_fields {c c' : Configuration}
    (same : ∀ k : Key, k.field c = k.field c') (dependencies : c.dependencies = c'.dependencies) :
    c = c' := by
  have health : c.health = c'.health := by
    have breaker : c.health.breaker = c'.health.breaker :=
      BreakerPolicy.eq_of_fields fun k => same (.healthBreaker k)
    have retry : c.health.retry = c'.health.retry :=
      RetryPolicy.eq_of_fields fun k => same (.healthRetry k)
    have concurrent : c.health.concurrent = c'.health.concurrent := same .concurrent
    have checks : c.health.checks = c'.health.checks := same .checks
    rw [HealthSettings.mk.injEq]
    exact ⟨breaker, retry, concurrent, checks⟩
  have breaker : c.breaker = c'.breaker := BreakerPolicy.eq_of_fields fun k => same (.breaker k)
  have retries : c.retries = c'.retries := RetryPolicy.eq_of_fields fun k => same (.retries k)
  have observability : c.observability = c'.observability :=
    ObservabilitySettings.eq_of_fields fun k => same (.observability k)
  have admin : c.admin = c'.admin := AdminSettings.eq_of_fields fun k => same (.admin k)
  rw [Configuration.mk.injEq]
  exact ⟨breaker, retries, health, dependencies, observability, admin⟩

/-- **A configuration is read key by key.** What it has for a key is the value at the path of the
key, or the default of the key if nothing is there; for the policies of health checks, null is
nothing, and the defaults are their own. The keys and the overrides of dependencies are all that
there is. So whatever is written at a path, only the keys at this path, above it or below it can
have another value then; if it is the path of a key, that is this key alone. -/
theorem Configuration.read_key_by_key {surplus : Surplus} {d : Document} {c : Configuration}
    (tables : InTables d) (decoded : decode surplus d = some c) :
    (∀ k : Key, Filled (k.read surplus) k.default (k.given? d) (k.field c)) ∧
      (∀ c', (∀ k : Key, k.field c' = k.field c) → c'.dependencies = c.dependencies → c' = c) ∧
      (∀ (k : Key) v, InTables (d.write k.path v) ∧ (d.write k.path v).at? k.path = v ∧
        SameBeside k.path d (d.write k.path v)) ∧
      ∀ d' c', InTables d' → decode surplus d' = some c' →
        (∀ k : Key, SameBeside k.path d d' →
          (∀ other, other ≠ k → other.field c' = other.field c) ∧
            c'.dependencies = c.dependencies) ∧
        ∀ path, SameBeside path d d' →
          (∀ k : Key, Apart path k.path → k.field c' = k.field c) ∧
            (Apart path ["dependencies"] → c'.dependencies = c.dependencies) := by
  refine ⟨fun k => k.filled tables decoded, fun c' => eq_of_fields,
    fun k v => ⟨tables.write k v, at?_write k.path_ne_nil (k.leads tables) v,
      sameBeside_write (k.leads tables) v⟩, fun d' c' tables' decoded' => ?_⟩
  have beside : ∀ path, SameBeside path d d' →
      (∀ k : Key, Apart path k.path → k.field c' = k.field c) ∧
        (Apart path ["dependencies"] → c'.dependencies = c.dependencies) := fun path same =>
    ⟨fun k => Key.field_eq_of_sameBeside tables decoded tables' decoded' same,
      dependencies_eq_of_sameBeside tables decoded tables' decoded' same⟩
  refine ⟨fun k same => ?_, beside⟩
  obtain ⟨keys, dependencies⟩ := beside k.path same
  exact ⟨fun other ne => keys other (Key.apart ne.symm), dependencies k.apart_dependencies⟩

/-- A document with null for how long the breakers of health checks stay open, which is the default
for health checks and not the general one, and the document with a quarter of a second there. -/
theorem Configuration.read_key_by_key_of_null :
    let d : Document :=
      .table [("retries", .table [("max_attempts", .int 7)]),
        ("health", .table [("breaker", .table [("failure_threshold", .int 4),
          ("recovery_timeout_ms", .null)])])]
    let k : Key := .healthBreaker .recoveryTimeout
    let d' := d.write k.path (some (.int 250))
    ∃ c c', InTables d ∧ decode .refused d = some c ∧ InTables d' ∧
      decode .refused d' = some c' ∧ SameBeside k.path d d' ∧
      Filled asMillis? 10000000000 none c.health.breaker.recoveryTimeout ∧
      c'.health.breaker.recoveryTimeout = 250000000 ∧
      (∀ other, other ≠ k → other.field c' = other.field c) ∧
      c.retries.maxAttempts = 7 ∧ c.health.breaker.failureThreshold = 4 ∧
      c.health.retry.baseDelay = 500000000 := by
  intro d k d'
  have tables : InTables d := by decide
  have decoded : decode .refused d = some _ := rfl
  have decoded' : decode .refused d' = some _ := rfl
  obtain ⟨filled, -, written, changes⟩ := read_key_by_key tables decoded
  obtain ⟨tables', -, same⟩ := written k (some (.int 250))
  exact ⟨_, _, tables, decoded, tables', decoded', same, filled k, rfl,
    ((changes d' _ tables' decoded').1 k same).1, rfl, rfl, rfl⟩

end Safeguard
