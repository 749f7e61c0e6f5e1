import Safeguard.Health.Status
import Safeguard.Net.Network
import Safeguard.Operation.Script
import Safeguard.Text.Quoted

/-!
# Health checks

A check is an operation that finds out how a dependency does. Most checks put a question to the
dependency and only care whether it is answered: then the dependency is up, and otherwise the
check fails with the error of the question. A failed check is for the breaker and the retries to
see; a check may also succeed and find that the dependency is not up.
-/

namespace Safeguard

/-- What a check finds. -/
structure Finding where
  status : ServiceStatus
  error : Option String := none
  deriving DecidableEq

/-- A health check. -/
structure Check where
  /-- What its invocations do. -/
  script : Script Finding
  /-- Whether it finds out on the side: then what it finds is known at the same instant, but after
  everything else that happens at that instant. -/
  aside : Bool := false

namespace Finding

/-- The dependency works. -/
def up : Finding := { status := .up }

/-- The dependency works badly. -/
def degraded (reason : String) : Finding := { status := .degraded, error := some reason }

/-- The dependency does not work. -/
def down (error : String) : Finding := { status := .down, error := some error }

/-- What the result of another check says. -/
def ofHealth (h : ServiceHealth) : Finding := { status := h.status, error := h.error }

end Finding

namespace Check

variable {α : Type}

/-- The check after `n` invocations. -/
def after (c : Check) (n : Nat) : Check := { c with script := c.script.after n }

/-- A check that is up if its question is answered. -/
def ping (question : Script α) : Check where
  script := fun n => (question n).map fun _ => .up

/-- The error of a ping that is answered by anything but `PONG`. -/
def unexpectedReply (reply : String) : String := "unexpected PING reply: " ++ Text.quoted reply

/-- A check that is up if its question is answered by `PONG`. -/
def pingPong (question : Script String) : Check where
  script := fun n =>
    (question n).bind fun reply =>
      if reply = "PONG" then .ok .up else .error (unexpectedReply reply)

/-- A check that is up if somebody listens at its own address. -/
def listening : Check where
  script := fun _ => { reply := .ok .up }

/-- A check that is up if an address can be reached within a limit. -/
def reach (network : Network) (address : String) (limit : Nat) : Check :=
  { ping (network.connectWithin address limit) with aside := Network.looksUp address limit }

end Check

end Safeguard
