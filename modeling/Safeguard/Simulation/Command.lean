import Safeguard.Admin.Answer
import Safeguard.Call.InFlight
import Safeguard.Shutdown

/-!
# Commands of a simulation

A simulation plays a service against a clock that moves only when something waits. A `Command` is
one thing that is done to the service, a `Result` what came of it. Values that operations return
are documents, which are passed on as they are.
-/

namespace Safeguard

/-- What a breaker of its own is put through. -/
inductive Act
  | reset
  | forceOpen
  | advance (d : Nat)
  | call (limit : Option Nat) (outcome : Outcome Document)

/-- A request that has not been made yet. -/
structure RequestLine where
  method : String
  target : String
  authorization : Option String

namespace RequestLine

/-- The request, if it can be made. -/
def request? (r : RequestLine) : Option Request := Request.make? r.method r.target r.authorization

end RequestLine

/-- Something that is done to the service. -/
inductive Command
  /-- A command that cannot be read. -/
  | unreadable
  /-- Time passes. -/
  | advance (d : Nat)
  -- Breakers
  | create (name : String) (policy : Option BreakerPolicy)
  | find (name : String)
  | policyFor (name : String)
  | reset (name : String)
  | forceOpen (name : String)
  | statuses
  | census
  -- Whole calls
  | execute (name : String) (policy : Option BreakerPolicy) (limit : Option Nat)
      (script : Script Document)
  | protect (protection : Protection) (retry : Option RetryPolicy) (script : Script Document)
  | layer (protection : Protection) (requests : List Document) (readyError : Option String)
      (script : Script Document)
  | retry (policy : RetryPolicy) (retryable : Option (String → Bool)) (script : Script Document)
  | wrap (policy : RetryPolicy) (times : Nat) (script : Script Document)
  | solo (name : String) (policy : BreakerPolicy) (acts : List Act)
  -- Calls on their way
  | start (id : String) (protection : Protection) (limit : Option Nat)
      (retry : Option RetryPolicy)
  | finish (id : String) (reply : Reply Document)
  | poll (id : String)
  | drop (id : String)
  -- Health
  | register (name : String) (check : Check) (counted : Bool)
  | unregister (name : String)
  | checkNames
  | checkCalls
  | health
  | sharedRegistry
  | metrics
  -- The admin interface
  | request (line : RequestLine)
  | serve (lines : List RequestLine)
  -- The shutdown signal
  | subscribe (id : String)
  | await (id : String)
  | unsubscribe (id : String)
  | trigger
  | signals

/-- Whose breaker a command is about, by its name or by a call on its way. -/
inductive Subject
  | none
  | breaker (name : String)
  | call (id : String)

/-- What came of an act. -/
inductive ActResult
  | done
  | called (reply : CallReply Document)

/-- What came of a request. -/
inductive RequestResult
  /-- The request cannot be made. -/
  | malformed
  /-- The request did not arrive. -/
  | lost (reason : String)
  | answered (response : Response)

/-- What came of a command. -/
inductive Result
  | unreadable
  | nothing
  | truth (value : Bool)
  | count (n : Nat)
  | names (names : List String)
  | lines (lines : List String)
  | breaker (name : String) (state : CircuitState) (policy : BreakerPolicy)
  | policy (policy : Option BreakerPolicy)
  | statuses (statuses : NameMap BreakerStatus)
  | census (names : List String) (size : Nat) (isEmpty : Bool)
  | called (reply : CallReply Document) (invocations : List Nat)
  | guarded (protection : Protection) (policy : Option BreakerPolicy)
      (reply : CallReply Document) (invocations : List Nat)
  | calledAll (replies : List (CallReply Document)) (invocations : List Nat)
  | solo (name : String) (policy : BreakerPolicy) (acts : List (ActResult × BreakerStatus))
  | pending (invocations : List Nat)
  | unknownCall (id : String)
  | unregistered (known : Bool) (names : List String)
  | checkCalls (calls : NameMap (List Nat))
  | health (status : HealthStatus)
  | sharedRegistry (names : List String)
  | responded (result : RequestResult)
  | served (results : List RequestResult)
  | unsubscribed (known : Bool) (count : Nat)
  | signals (seen : NameMap String) (count : Nat)

end Safeguard
