import Safeguard.Config.Basic
import Safeguard.Document.Record

/-!
# The written form of a configuration

For each part of a configuration, `decode` reads it from a document and `encode` writes it. Keys
that are left out take their defaults and unknown keys are ignored. The policies of health checks
are written in full but read as overrides of their own defaults, so that a key left out there
never takes the general default. Times are written in whole milliseconds.
-/

namespace Safeguard

open Document

/-! ## Policies of breakers -/

namespace BreakerPolicy

/-- The fields of a breaker's policy, in order. -/
def fieldNames : List String :=
  ["failure_threshold", "recovery_timeout_ms", "monitoring_period_ms", "expected_error_rate"]

/-- Reads the policy of a breaker; what is left out takes the general default. -/
def decode (surplus : Surplus) (d : Document) : Option BreakerPolicy := do
  let r ← d.record? surplus fieldNames
  let base : BreakerPolicy := {}
  let failureThreshold ← (r "failure_threshold").withDefault base.failureThreshold asWord32?
  let recoveryTimeout ← (r "recovery_timeout_ms").withDefault base.recoveryTimeout asMillis?
  let monitoringPeriod ← (r "monitoring_period_ms").withDefault base.monitoringPeriod asMillis?
  let expectedErrorRate ← (r "expected_error_rate").withDefault base.expectedErrorRate asFloat?
  some { failureThreshold, recoveryTimeout, monitoringPeriod, expectedErrorRate }

/-- Writes the policy of a breaker. -/
def encode (p : BreakerPolicy) : Document :=
  .table
    [("failure_threshold", word32 p.failureThreshold),
      ("recovery_timeout_ms", millis p.recoveryTimeout),
      ("monitoring_period_ms", millis p.monitoringPeriod),
      ("expected_error_rate", .float p.expectedErrorRate)]

end BreakerPolicy

namespace BreakerOverride

/-- Reads an override of a breaker's policy; null is the same as leaving a key out. -/
def decode (surplus : Surplus) (d : Document) : Option BreakerOverride := do
  let r ← d.record? surplus BreakerPolicy.fieldNames
  let failureThreshold ← (r "failure_threshold").optional asWord32?
  let recoveryTimeout ← (r "recovery_timeout_ms").optional asWord64?
  let monitoringPeriod ← (r "monitoring_period_ms").optional asWord64?
  let expectedErrorRate ← (r "expected_error_rate").optional asFloat?
  some { failureThreshold, recoveryTimeout, monitoringPeriod, expectedErrorRate }

/-- Writes an override of a breaker's policy, null for what it leaves alone. -/
def encode (o : BreakerOverride) : Document :=
  .table
    [("failure_threshold", Document.optional word32 o.failureThreshold),
      ("recovery_timeout_ms", Document.optional word64 o.recoveryTimeout),
      ("monitoring_period_ms", Document.optional word64 o.monitoringPeriod),
      ("expected_error_rate", Document.optional .float o.expectedErrorRate)]

end BreakerOverride

/-! ## Policies of retries -/

namespace RetryPolicy

/-- The fields of a retry policy, in order. -/
def fieldNames : List String :=
  ["max_attempts", "base_delay_ms", "max_delay_ms", "backoff_multiplier", "jitter",
    "retryable_markers", "max_elapsed_ms"]

/-- Reads a retry policy; what is left out takes the general default. -/
def decode (surplus : Surplus) (d : Document) : Option RetryPolicy := do
  let r ← d.record? surplus fieldNames
  let base : RetryPolicy := {}
  let maxAttempts ← (r "max_attempts").withDefault base.maxAttempts asWord32?
  let baseDelay ← (r "base_delay_ms").withDefault base.baseDelay asMillis?
  let maxDelay ← (r "max_delay_ms").withDefault base.maxDelay asMillis?
  let multiplier ← (r "backoff_multiplier").withDefault base.multiplier asFloat?
  let jitter ← (r "jitter").withDefault base.jitter asBool?
  let markers ← (r "retryable_markers").withDefault base.markers (asList? asText?)
  let maxElapsed ← (r "max_elapsed_ms").optional asMillis?
  some { maxAttempts, baseDelay, maxDelay, multiplier, jitter, markers, maxElapsed }

/-- Writes a retry policy; a policy without a time budget has no key for it. -/
def encode (p : RetryPolicy) : Document :=
  .table <|
    [("max_attempts", word32 p.maxAttempts),
      ("base_delay_ms", millis p.baseDelay),
      ("max_delay_ms", millis p.maxDelay),
      ("backoff_multiplier", .float p.multiplier),
      ("jitter", .bool p.jitter),
      ("retryable_markers", texts p.markers)] ++
    match p.maxElapsed with
    | some d => [("max_elapsed_ms", millis d)]
    | none => []

end RetryPolicy

namespace RetryOverride

/-- Reads an override of a retry policy; null is the same as leaving a key out. -/
def decode (surplus : Surplus) (d : Document) : Option RetryOverride := do
  let r ← d.record? surplus RetryPolicy.fieldNames
  let maxAttempts ← (r "max_attempts").optional asWord32?
  let baseDelay ← (r "base_delay_ms").optional asWord64?
  let maxDelay ← (r "max_delay_ms").optional asWord64?
  let multiplier ← (r "backoff_multiplier").optional asFloat?
  let jitter ← (r "jitter").optional asBool?
  let markers ← (r "retryable_markers").optional (asList? asText?)
  let maxElapsed ← (r "max_elapsed_ms").optional asWord64?
  some { maxAttempts, baseDelay, maxDelay, multiplier, jitter, markers, maxElapsed }

/-- Writes an override of a retry policy, null for what it leaves alone. -/
def encode (o : RetryOverride) : Document :=
  .table
    [("max_attempts", Document.optional word32 o.maxAttempts),
      ("base_delay_ms", Document.optional word64 o.baseDelay),
      ("max_delay_ms", Document.optional word64 o.maxDelay),
      ("backoff_multiplier", Document.optional .float o.multiplier),
      ("jitter", Document.optional .bool o.jitter),
      ("retryable_markers", Document.optional texts o.markers),
      ("max_elapsed_ms", Document.optional word64 o.maxElapsed)]

end RetryOverride

/-! ## Health checks -/

namespace CheckTarget

/-- The fields of a declared check, in order. -/
def fieldNames : List String := ["name", "address", "timeout_ms"]

/-- Reads a declared check; its name and its address have to be given. -/
def decode (surplus : Surplus) (d : Document) : Option CheckTarget := do
  let r ← d.record? surplus fieldNames
  let name ← (r "name").required asText?
  let address ← (r "address").required asText?
  let timeout ← (r "timeout_ms").withDefault 2000 asWord64?
  some { name, address, timeout }

/-- Writes a declared check. -/
def encode (t : CheckTarget) : Document :=
  .table [("name", .text t.name), ("address", .text t.address), ("timeout_ms", word64 t.timeout)]

end CheckTarget

namespace HealthSettings

/-- The fields of the settings of health checks, in order. -/
def fieldNames : List String := ["breaker", "retry", "concurrent", "checks"]

/-- Reads the policy of the breakers of health checks, as an override of their default. -/
def decodeBreaker (surplus : Surplus) (d : Document) : Option BreakerPolicy :=
  (BreakerOverride.decode surplus d).map BreakerPolicy.forHealthChecks.overriddenBy

/-- Reads the retry policy of health checks, as an override of its default. -/
def decodeRetry (surplus : Surplus) (d : Document) : Option RetryPolicy :=
  (RetryOverride.decode surplus d).map RetryPolicy.forHealthChecks.overriddenBy

/-- Reads the settings of health checks. -/
def decode (surplus : Surplus) (d : Document) : Option HealthSettings := do
  let r ← d.record? surplus fieldNames
  let breaker ← (r "breaker").withDefault .forHealthChecks (decodeBreaker surplus)
  let retry ← (r "retry").withDefault .forHealthChecks (decodeRetry surplus)
  let concurrent ← (r "concurrent").withDefault true asBool?
  let checks ← (r "checks").withDefault [] (asList? (CheckTarget.decode surplus))
  some { breaker, retry, concurrent, checks }

/-- Writes the settings of health checks. -/
def encode (h : HealthSettings) : Document :=
  .table
    [("breaker", h.breaker.encode), ("retry", h.retry.encode), ("concurrent", .bool h.concurrent),
      ("checks", .list (h.checks.map CheckTarget.encode))]

end HealthSettings

/-! ## Logs, metrics and the admin interface -/

namespace ObservabilitySettings

/-- The fields of the settings of logs and metrics, in order. -/
def fieldNames : List String := ["log_level", "json_logs", "metrics_enabled", "metrics_address"]

/-- Reads the settings of logs and metrics. -/
def decode (surplus : Surplus) (d : Document) : Option ObservabilitySettings := do
  let r ← d.record? surplus fieldNames
  let base : ObservabilitySettings := {}
  let logLevel ← (r "log_level").withDefault base.logLevel asText?
  let jsonLogs ← (r "json_logs").withDefault base.jsonLogs asBool?
  let metricsEnabled ← (r "metrics_enabled").withDefault base.metricsEnabled asBool?
  let metricsAddress ← (r "metrics_address").withDefault base.metricsAddress asText?
  some { logLevel, jsonLogs, metricsEnabled, metricsAddress }

/-- Writes the settings of logs and metrics. -/
def encode (o : ObservabilitySettings) : Document :=
  .table
    [("log_level", .text o.logLevel), ("json_logs", .bool o.jsonLogs),
      ("metrics_enabled", .bool o.metricsEnabled), ("metrics_address", .text o.metricsAddress)]

end ObservabilitySettings

namespace AdminSettings

/-- The fields of the settings of the admin interface, in order. -/
def fieldNames : List String := ["enabled", "bind_address", "api_key"]

/-- Reads the settings of the admin interface. -/
def decode (surplus : Surplus) (d : Document) : Option AdminSettings := do
  let r ← d.record? surplus fieldNames
  let base : AdminSettings := {}
  let enabled ← (r "enabled").withDefault base.enabled asBool?
  let bindAddress ← (r "bind_address").withDefault base.bindAddress asText?
  let apiKey ← (r "api_key").optional asText?
  some { enabled, bindAddress, apiKey }

/-- Writes the settings of the admin interface, null for no key. -/
def encode (a : AdminSettings) : Document :=
  .table
    [("enabled", .bool a.enabled), ("bind_address", .text a.bindAddress),
      ("api_key", Document.optional .text a.apiKey)]

end AdminSettings

/-! ## The whole configuration -/

namespace Configuration

/-- The sections of a configuration, in order. -/
def fieldNames : List String :=
  ["circuit_breaker", "retries", "health", "dependencies", "observability", "admin"]

/-- Reads overrides by the names of the dependencies. -/
def decodeDependencies (surplus : Surplus) (d : Document) : Option (NameMap BreakerOverride) :=
  (asFields? (BreakerOverride.decode surplus) d).map NameMap.ofList

/-- Writes overrides by the names of the dependencies. -/
def encodeDependencies (m : NameMap BreakerOverride) : Document :=
  .table (m.entries.map fun (name, o) => (name, o.encode))

/-- Reads a configuration. -/
def decode (surplus : Surplus) (d : Document) : Option Configuration := do
  let r ← d.record? surplus fieldNames
  let breaker ← (r "circuit_breaker").withDefault {} (BreakerPolicy.decode surplus)
  let retries ← (r "retries").withDefault {} (RetryPolicy.decode surplus)
  let health ← (r "health").withDefault {} (HealthSettings.decode surplus)
  let dependencies ← (r "dependencies").withDefault .empty (decodeDependencies surplus)
  let observability ← (r "observability").withDefault {} (ObservabilitySettings.decode surplus)
  let admin ← (r "admin").withDefault {} (AdminSettings.decode surplus)
  some { breaker, retries, health, dependencies, observability, admin }

/-- Writes a configuration. -/
def encode (c : Configuration) : Document :=
  .table
    [("circuit_breaker", c.breaker.encode), ("retries", c.retries.encode),
      ("health", c.health.encode), ("dependencies", encodeDependencies c.dependencies),
      ("observability", c.observability.encode), ("admin", c.admin.encode)]

end Configuration

end Safeguard
