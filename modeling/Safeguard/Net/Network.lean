import Safeguard.Net.SocketAddress
import Safeguard.Operation.Script
import Safeguard.Time.Text

/-!
# Reaching other hosts

A `Network` says what comes of attempts to connect to other hosts: each attempt connects after a
while, or fails with an error. An attempt is given up at a limit. An address in numbers is tried at
once. Any other text has to be looked up first, which is done on the side, so that a limit of zero
passes before it is done.
-/

namespace Safeguard

/-- What there is to connect to. -/
structure Network where
  /-- What the attempts to connect to an address do. -/
  connect : (address : String) → Script Unit
  /-- Why the clients of the service cannot reach it, if they cannot. -/
  obstacle : Option String := none

namespace Network

/-- Whether a text ends in a colon and a port number; none if it has no colon. -/
def endsInPort? (address : String) : Option Bool :=
  let parts := address.splitOn ":"
  if parts.length ≤ 1 then none else parts.getLast?.map SocketAddress.isPort

/-- Why there can be no attempt to connect to an address, if it cannot be made out. -/
def malformed? (address : String) : Option String :=
  if SocketAddress.isValid address then none
  else
    match endsInPort? address with
    | none => some "invalid socket address"
    | some false => some "invalid port value"
    | some true => none

/-- Attempts to connect where nobody answers: they all fail at once, for one reason. -/
def unanswered (reason : String) (address : String) : Script Unit := fun _ =>
  { reply := .error ((malformed? address).getD reason) }

/-- A network on which nobody listens. -/
def refusing : Network where
  connect := unanswered "Connection refused (os error 111)"

/-- No network at all. -/
def unreachable : Network where
  connect := unanswered "Network is unreachable (os error 101)"
  obstacle := some "Network is unreachable (os error 101)"

/-- Whether an attempt to connect to an address has to look it up and has the time to. -/
def looksUp (address : String) (limit : Nat) : Bool :=
  !SocketAddress.isValid address && limit != 0

/-- Whether an attempt that takes a while is made out before it is given up at a limit. -/
def IsInTime (address : String) (limit delay : Nat) : Prop :=
  delay ≤ limit ∧ (SocketAddress.isValid address = true ∨ limit ≠ 0)

instance (address : String) (limit delay : Nat) : Decidable (IsInTime address limit delay) :=
  inferInstanceAs (Decidable (_ ∧ _))

/-- The attempts to connect to an address, each given up at a limit. Errors name the address. -/
def connectWithin (network : Network) (address : String) (limit : Nat) : Script Unit := fun n =>
  let attempt := network.connect address n
  if IsInTime address limit attempt.delay then
    { attempt with reply := attempt.reply.mapError fun error => address ++ ": " ++ error }
  else
    { delay := limit, timed := true
      reply := .error (address ++ ": connect timed out after " ++ durationText limit) }

end Network

end Safeguard
