import Safeguard.Health.Status
import Safeguard.Notice
import Safeguard.Numeric.Decimal

/-!
# Metrics

Counters and gauges by their series: a metric and its labels. Events move the counters of calls,
rejections and retries and the gauge of a circuit's state; the result of a health run sets the
gauges of health. `Metrics.lines` is the text that is scraped: one line per series that has been
written, in order.

A label's value is written between quotes, with quotes and line breaks escaped. A backslash is
held back until it is clear that it does not escape anything; two in a row are one that is escaped
already. So different labels may be written alike, and then they share a line.
-/

namespace Safeguard

/-! ## Series -/

/-- A metric with values for its labels. -/
structure Series where
  metric : String
  labels : List (String × String) := []
  deriving DecidableEq

namespace Series

/-- A label's value as it is written; `held` says that a backslash is held back. -/
def escapedFrom : (held : Bool) → List Char → List Char
  | true, [] => ['\\', '\\']
  | false, [] => []
  | held, '\n' :: rest => ['\\', 'n'] ++ escapedFrom held rest
  | _, '"' :: rest => ['\\', '"'] ++ escapedFrom false rest
  | true, '\\' :: rest => ['\\', '\\'] ++ escapedFrom false rest
  | false, '\\' :: rest => escapedFrom true rest
  | true, c :: rest => ['\\', '\\', c] ++ escapedFrom false rest
  | false, c :: rest => c :: escapedFrom false rest

/-- A label's value as it is written. -/
def escaped (value : String) : String := String.ofList (escapedFrom false value.toList)

/-- A label. -/
def labelText (label : String × String) : String :=
  label.1 ++ "=\"" ++ escaped label.2 ++ "\""

/-- A series as it is written. -/
def text (s : Series) : String :=
  if s.labels.isEmpty then s.metric
  else s.metric ++ "\x7b" ++ ",".intercalate (s.labels.map labelText) ++ "\x7d"

/-- The state of a dependency's circuit. -/
def circuitState (dependency : String) : Series :=
  ⟨"resilience_circuit_state", [("dependency", dependency)]⟩

/-- The outcome of a call, in a word. -/
def outcome (success : Bool) : String := if success then "success" else "failure"

/-- The calls to a dependency that ended one way. -/
def calls (dependency : String) (success : Bool) : Series :=
  ⟨"resilience_calls_total", [("dependency", dependency), ("outcome", outcome success)]⟩

/-- The calls to a dependency that were rejected. -/
def rejected (dependency : String) : Series :=
  ⟨"resilience_rejected_total", [("dependency", dependency)]⟩

/-- The retries that were scheduled. -/
def retries : Series := ⟨"resilience_retries_total", []⟩

/-- The health of the service. -/
def health : Series := ⟨"resilience_health_status", []⟩

/-- The health of one dependency. -/
def serviceHealth (service : String) : Series :=
  ⟨"resilience_service_status", [("service", service)]⟩

end Series

/-! ## Values by series -/

/-- The value of a series. -/
def Series.find {α : Type} (s : Series) : List (Series × α) → Option α
  | [] => none
  | (key, value) :: rest => if key = s then some value else s.find rest

/-- The series with the value of one of them set. -/
def Series.put {α : Type} (s : Series) (value : α) : List (Series × α) → List (Series × α)
  | [] => [(s, value)]
  | (key, old) :: rest =>
    if key = s then (s, value) :: rest else (key, old) :: s.put value rest

namespace Series

@[simp] theorem find_put_self {α : Type} (s : Series) (value : α) (entries : List (Series × α)) :
    s.find (s.put value entries) = some value := by
  induction entries with
  | nil => simp [put, find]
  | cons e rest ih =>
    obtain ⟨key, old⟩ := e
    by_cases h : key = s <;> simp [put, find, h, ih]

theorem find_put_ne {α : Type} {s other : Series} (h : other ≠ s) (value : α)
    (entries : List (Series × α)) : other.find (s.put value entries) = other.find entries := by
  induction entries with
  | nil => simp [put, find, Ne.symm h]
  | cons e rest ih =>
    obtain ⟨key, old⟩ := e
    by_cases hk : key = s
    · subst hk
      simp [put, find, Ne.symm h]
    · simp [put, find, hk, ih]

end Series

/-! ## Recording -/

/-- The counters and gauges that have been written. -/
structure Metrics where
  counters : List (Series × Nat) := []
  gauges : List (Series × Float) := []

namespace Metrics

/-- The value of a counter, if it has been written. -/
def counter? (m : Metrics) (s : Series) : Option Nat := s.find m.counters

/-- The value of a gauge, if it has been written. -/
def gauge? (m : Metrics) (s : Series) : Option Float := s.find m.gauges

/-- Counts one more. -/
def count (m : Metrics) (s : Series) : Metrics :=
  { m with counters := s.put ((m.counter? s).getD 0 + 1) m.counters }

/-- Sets a gauge. -/
def set (m : Metrics) (s : Series) (value : Float) : Metrics :=
  { m with gauges := s.put value m.gauges }

@[simp] theorem counter?_count_self (m : Metrics) (s : Series) :
    (m.count s).counter? s = some ((m.counter? s).getD 0 + 1) := Series.find_put_self _ _ _

theorem counter?_count_ne (m : Metrics) {s other : Series} (h : other ≠ s) :
    (m.count s).counter? other = m.counter? other := Series.find_put_ne h _ _

@[simp] theorem gauge?_set_self (m : Metrics) (s : Series) (value : Float) :
    (m.set s value).gauge? s = some value := Series.find_put_self _ _ _

theorem gauge?_set_ne (m : Metrics) {s other : Series} (h : other ≠ s) (value : Float) :
    (m.set s value).gauge? other = m.gauge? other := Series.find_put_ne h _ _

@[simp] theorem gauge?_count (m : Metrics) (s other : Series) :
    (m.count s).gauge? other = m.gauge? other := rfl

@[simp] theorem counter?_set (m : Metrics) (s other : Series) (value : Float) :
    (m.set s value).counter? other = m.counter? other := rfl

/-- Records an event. -/
def record (m : Metrics) : Event → Metrics
  | .stateChanged dependency _ after => m.set (.circuitState dependency) after.gauge
  | .callRejected dependency => m.count (.rejected dependency)
  | .callCompleted dependency success => m.count (.calls dependency success)
  | .retryScheduled .. => m.count .retries

/-- Records events in order. -/
def recordAll (m : Metrics) (events : List Event) : Metrics := events.foldl record m

/-- Records the result of a health run. -/
def recordHealth (m : Metrics) (h : HealthStatus) : Metrics :=
  h.services.entries.foldl (fun m (name, s) => m.set (.serviceHealth name) s.status.gauge)
    (m.set .health h.status.gauge)

/-- The values by their series as they are written. Of two series that are written alike, the later
one counts. -/
def written (m : Metrics) : NameMap String :=
  let counters := m.counters.foldl (fun w (s, n) => w.insert s.text (toString n)) .empty
  m.gauges.foldl (fun w (s, x) => w.insert s.text (plainFloat x)) counters

/-- One line per series that has been written, in order. -/
def lines (m : Metrics) : List String :=
  (m.written.entries.map fun (series, value) => series ++ " " ++ value).mergeSort
    fun a b => a ≤ b

end Metrics

end Safeguard
