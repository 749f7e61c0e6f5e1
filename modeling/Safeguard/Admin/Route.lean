import Safeguard.Admin.Request

/-!
# Routes of the admin interface

A path names a route by its segments, which are compared as they are written. The name of a
breaker is whatever stands in its segment, and may be empty.
-/

namespace Safeguard

/-- A route of the admin interface. -/
inductive Route
  /-- The health of the service. -/
  | health
  /-- The status of every breaker. -/
  | breakers
  /-- Resets a breaker, named by a segment of the path. -/
  | reset (segment : String)
  /-- Opens a breaker, named by a segment of the path. -/
  | forceOpen (segment : String)
  deriving DecidableEq

/-- How a route is used: it is read, or it acts. -/
inductive Usage
  | reads
  | acts
  deriving DecidableEq

namespace Usage

/-- The methods of a use, as they are listed for others. -/
def allow : Usage → String
  | reads => "GET,HEAD"
  | acts => "POST"

/-- Whether a method belongs to a use. -/
def takes (u : Usage) (method : String) : Bool :=
  match u with
  | reads => method == "GET" || method == "HEAD"
  | acts => method == "POST"

end Usage

namespace Route

/-- The segments of a path, after what stands before the first slash. -/
def segments (path : String) : List String := (path.toList.splitOn '/').map String.ofList

/-- The route of a path. -/
def ofPath? (path : String) : Option Route :=
  match segments path with
  | ["", "health"] => some .health
  | ["", "admin", "circuit-breakers"] => some .breakers
  | ["", "admin", "circuit-breakers", segment, "reset"] => some (.reset segment)
  | ["", "admin", "circuit-breakers", segment, "force-open"] => some (.forceOpen segment)
  | _ => none

/-- How a route is used. -/
def usage : Route → Usage
  | health | breakers => .reads
  | reset _ | forceOpen _ => .acts

/-- Whether a route is open to those only who present the key. -/
def isProtected : Route → Bool
  | health => false
  | _ => true

end Route

end Safeguard
