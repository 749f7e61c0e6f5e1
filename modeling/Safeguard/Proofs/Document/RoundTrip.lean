import Safeguard.Health.Status
import Safeguard.Proofs.Config.Lossless

/-!
# Reading undoes writing

Reports on breakers and on health have written forms that lose nothing either, up to the parts of
durations below a millisecond. `reads_what_was_written` gathers all formats: a value without
infinite doubles that is made into a JSON value is read again, with its durations in whole
milliseconds, and a value that was read from JSON is read again as it is.
-/

namespace Safeguard

open Document Lossless

variable (surplus : Surplus)

/-! ## Reports on breakers -/

theorem BreakerStatus.lossless : Lossless (decode surplus) encode id fun _ => True where
  read_write s := by
    refine bind_eq_some rfl ?_
    refine bind_eq_some (text.read_write _) ?_
    refine bind_eq_some ((named CircuitState.ofName?_name).read_write _) ?_
    refine bind_eq_some (word32.read_write _) ?_
    refine bind_eq_some (word64.read_write _) ?_
    refine bind_eq_some ((word64.optional_id nofun).read_write _) ?_
    refine bind_eq_some ((word64.optional_id nofun).read_write _) ?_
    exact bind_eq_some (bool.read_write _) rfl
  isJson_write _ := by simp [encode, CircuitState.encode]
  of_read _ _ := ⟨trivial, rfl⟩

/-! ## Reports on health -/

theorem ServiceStatus.ofName?_name (s : ServiceStatus) : ofName? s.name = some s := by
  cases s <;> rfl

theorem OverallStatus.ofName?_name (s : OverallStatus) : ofName? s.name = some s := by
  cases s <;> rfl

namespace ServiceHealth

/-- The result with its duration in whole milliseconds. -/
def inMillis (h : ServiceHealth) : ServiceHealth :=
  { h with responseTime := h.responseTime.map truncatedToMillis }

theorem field?_optionalField {α : Type} (name key : String) (write : α → Document)
    (o : Option α) :
    field? name (optionalField key write o) = if key = name then o.map write else none := by
  cases o with
  | none => simp [optionalField, field?]
  | some a => simp [optionalField, field?]

/-- The fields of a written result. -/
theorem get?_encode (h : ServiceHealth) :
    h.encode.get? "status" = some (.text h.status.name) ∧
      h.encode.get? "responseTime" = h.responseTime.map Document.millis ∧
      h.encode.get? "error" = h.error.map .text ∧
      h.encode.get? "circuitBreakerState" = h.circuitState.map CircuitState.encode ∧
      h.encode.get? "lastCheck" = some (Document.word64 h.lastCheck) := by
  simp [encode, get?, field?, field?_append, field?_optionalField]

theorem lossless : Lossless (decode surplus) encode inMillis fun _ => True where
  read_write h := by
    obtain ⟨status, responseTime, error, circuitState, lastCheck⟩ := get?_encode h
    refine bind_eq_some rfl ?_
    refine bind_eq_some ((named ServiceStatus.ofName?_name).required_of_found status) ?_
    refine bind_eq_some (millis.optional_of_found nofun responseTime) ?_
    refine bind_eq_some (text.optional_of_found nofun error) ?_
    refine bind_eq_some
      ((named CircuitState.ofName?_name).optional_of_found nofun circuitState) ?_
    refine bind_eq_some (word64.required_of_found lastCheck) ?_
    rw [Option.map_id, Option.map_id]
    rfl
  isJson_write {h} _ := by
    obtain ⟨_, responseTime, error, circuitState, _⟩ := h
    cases responseTime <;> cases error <;> cases circuitState <;>
      simp [encode, optionalField, CircuitState.encode]
  of_read json read := by
    simp only [decode, Option.bind_eq_bind, Option.bind_eq_some_iff, Option.some.injEq] at read
    obtain ⟨r, fields, _, -, responseTime, hresponseTime, _, -, _, -, _, -, rfl⟩ := read
    have slots := isJson_of_record? json fields
    have settled := (millis.of_optional nofun (slots _) hresponseTime).2
    exact ⟨trivial, by simp only [inMillis, settled]⟩

end ServiceHealth

namespace HealthStatus

/-- The result with durations in whole milliseconds. -/
def inMillis (h : HealthStatus) : HealthStatus :=
  { h with
    services := h.services.map fun _ => ServiceHealth.inMillis
    uptime := truncatedToMillis h.uptime }

theorem lossless : Lossless (decode surplus) encode inMillis fun _ => True where
  read_write h := by
    refine bind_eq_some rfl ?_
    refine bind_eq_some ((named OverallStatus.ofName?_name).read_write _) ?_
    refine bind_eq_some ((ServiceHealth.lossless surplus).byName.read_write _) ?_
    refine bind_eq_some (word64.read_write _) ?_
    exact bind_eq_some (millis.read_write _) rfl
  isJson_write {h} _ := by
    have services := (ServiceHealth.lossless surplus).byName.isJson_write (a := h.services)
      fun _ _ => trivial
    simpa [encode] using services
  of_read json read := by
    simp only [decode, Option.bind_eq_bind, Option.bind_eq_some_iff, Option.some.injEq] at read
    obtain ⟨r, fields, _, -, services, hservices, _, -, uptime, huptime, rfl⟩ := read
    have slots := isJson_of_record? json fields
    have settled_services :=
      ((ServiceHealth.lossless surplus).byName.of_required (slots _) hservices).2
    have settled_uptime := (millis.of_required (slots _) huptime).2
    exact ⟨trivial, by simp only [inMillis, settled_services, settled_uptime]⟩

end HealthStatus

/-! ## All formats -/

/-- A format whose values come back from JSON: a value without infinite doubles that is made into
a JSON value and read again is the same, with its durations in whole milliseconds, and a value
that was read from any JSON value comes back as it is. -/
structure ComesBack {α : Type} (decode : Surplus → Document → Option α) (encode : α → Document)
    (inMillis : α → α) (FiniteFloats : α → Prop) : Prop where
  of_value : ∀ surplus a, FiniteFloats a →
    decode surplus (encode a).jsonValue = some (inMillis a)
  of_document : ∀ surplus d a, d.IsJson → decode surplus d = some a →
    decode surplus (encode a).jsonValue = some a

theorem Lossless.comesBack {α : Type} {decode : Surplus → Document → Option α}
    {encode : α → Document} {inMillis : α → α} {FiniteFloats : α → Prop}
    (l : ∀ surplus, Lossless (decode surplus) encode inMillis FiniteFloats) :
    ComesBack decode encode inMillis FiniteFloats := by
  have of_value : ∀ surplus a, FiniteFloats a →
      decode surplus (encode a).jsonValue = some (inMillis a) := fun surplus a finite => by
    rw [((l surplus).isJson_write finite).jsonValue_eq, (l surplus).read_write]
  refine ⟨of_value, fun surplus d a json read => ?_⟩
  obtain ⟨finite, settled⟩ := (l surplus).of_read json read
  rw [of_value surplus a finite, settled]

/-- Every value that is written as JSON comes back when it is read again. -/
theorem reads_what_was_written :
    ComesBack Configuration.decode Configuration.encode Configuration.inMillis
        Configuration.FiniteFloats ∧
      ComesBack BreakerPolicy.decode BreakerPolicy.encode BreakerPolicy.inMillis
        BreakerPolicy.FiniteFloats ∧
      ComesBack BreakerOverride.decode BreakerOverride.encode id BreakerOverride.FiniteFloats ∧
      ComesBack RetryPolicy.decode RetryPolicy.encode RetryPolicy.inMillis
        RetryPolicy.FiniteFloats ∧
      ComesBack RetryOverride.decode RetryOverride.encode id RetryOverride.FiniteFloats ∧
      ComesBack HealthSettings.decode HealthSettings.encode HealthSettings.inMillis
        HealthSettings.FiniteFloats ∧
      ComesBack CheckTarget.decode CheckTarget.encode id (fun _ => True) ∧
      ComesBack ObservabilitySettings.decode ObservabilitySettings.encode id (fun _ => True) ∧
      ComesBack AdminSettings.decode AdminSettings.encode id (fun _ => True) ∧
      ComesBack BreakerStatus.decode BreakerStatus.encode id (fun _ => True) ∧
      ComesBack ServiceHealth.decode ServiceHealth.encode ServiceHealth.inMillis
        (fun _ => True) ∧
      ComesBack HealthStatus.decode HealthStatus.encode HealthStatus.inMillis (fun _ => True) :=
  ⟨comesBack Configuration.lossless, comesBack BreakerPolicy.lossless,
    comesBack BreakerOverride.lossless, comesBack RetryPolicy.lossless,
    comesBack RetryOverride.lossless, comesBack HealthSettings.lossless,
    comesBack CheckTarget.lossless, comesBack ObservabilitySettings.lossless,
    comesBack AdminSettings.lossless, comesBack BreakerStatus.lossless,
    comesBack ServiceHealth.lossless, comesBack HealthStatus.lossless⟩

/-- Settings of health checks that override one field of the breakers' policy, among fields of
other names, come back; of a wait of one and a half milliseconds, one millisecond does. -/
theorem reads_what_was_written_of_override :
    HealthSettings.decode .refused (.table [("color", .text "red"),
        ("breaker", .table [("failure_threshold", .int 9), ("expected_error_rate", .null)])]) =
      some { breaker := { BreakerPolicy.forHealthChecks with failureThreshold := 9 } } ∧
    HealthSettings.decode .refused (HealthSettings.encode
        { breaker := { BreakerPolicy.forHealthChecks with failureThreshold := 9 } }).jsonValue =
      some { breaker := { BreakerPolicy.forHealthChecks with failureThreshold := 9 } } ∧
    HealthSettings.decode .refused (HealthSettings.encode
        { retry := { RetryPolicy.forHealthChecks with baseDelay := 1500000 } }).jsonValue =
      some { retry := { RetryPolicy.forHealthChecks with baseDelay := 1000000 } } := by
  have comesBack := reads_what_was_written.2.2.2.2.2.1
  refine ⟨rfl, ?_, comesBack.of_value .refused _ (by decide)⟩
  exact comesBack.of_document .refused (.table [("color", .text "red"),
    ("breaker", .table [("failure_threshold", .int 9), ("expected_error_rate", .null)])]) _
    (by simp) rfl

end Safeguard
