import Safeguard.Time.Text

/-!
# Failed calls

A call through a breaker fails in one of three ways: it is rejected and its operation never runs,
it runs past its deadline, or the operation fails. The error of an operation is passed on
unchanged.
-/

namespace Safeguard

/-- Why a call through a breaker failed. -/
inductive CallError (ε : Type)
  /-- The circuit is open; the time until a trial call is let through, if that is known. -/
  | rejected (dependency : String) (retryIn : Option Nat)
  /-- The operation ran past its deadline and was given up. -/
  | timedOut (dependency : String) (limit : Nat)
  /-- The operation failed. -/
  | failed (error : ε)
  deriving DecidableEq

namespace CallError

variable {ε : Type}

/-- Whether the operation never ran. -/
def isRejected : CallError ε → Bool
  | rejected .. => true
  | _ => false

/-- Whether the operation ran past its deadline. -/
def isTimeout : CallError ε → Bool
  | timedOut .. => true
  | _ => false

/-- The error of the operation, if that is what failed. -/
def operation? : CallError ε → Option ε
  | failed error => some error
  | _ => none

/-- What the error says. -/
def message : CallError String → String
  | rejected dependency _ => "circuit breaker is open for dependency '" ++ dependency ++ "'"
  | timedOut dependency limit =>
    "call to dependency '" ++ dependency ++ "' timed out after " ++ durationText limit
  | failed error => error

end CallError

end Safeguard
