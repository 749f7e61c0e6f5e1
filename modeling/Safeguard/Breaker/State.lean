import Safeguard.Document.Basic

/-!
# States of a circuit

A circuit is closed and lets calls through, open and rejects them, or half open: it lets a single
trial call through, which decides what comes next.
-/

namespace Safeguard

/-- The state of a circuit. -/
inductive CircuitState
  | closed
  | opened
  | halfOpen
  deriving DecidableEq

namespace CircuitState

/-- The name of a state. -/
def name : CircuitState → String
  | closed => "CLOSED"
  | opened => "OPEN"
  | halfOpen => "HALF_OPEN"

/-- The value of a state on a gauge. -/
def gauge : CircuitState → Float
  | closed => 0.0
  | opened => 1.0
  | halfOpen => 2.0

/-- The state of a name. -/
def ofName? : String → Option CircuitState
  | "CLOSED" => some closed
  | "OPEN" => some opened
  | "HALF_OPEN" => some halfOpen
  | _ => none

@[simp] theorem ofName?_name (s : CircuitState) : ofName? s.name = some s := by
  cases s <;> rfl

end CircuitState

end Safeguard
