import Safeguard.Admin.Access
import Safeguard.Admin.Route
import Safeguard.Health.Monitor
import Safeguard.Text.Percent

/-!
# Answers of the admin interface

`Admin.answer` answers one request. Unknown paths are told so before anything else. On a protected
route the key comes next, then the method, and only then the route does its work. The name of a
breaker is the text that its segment encodes.
-/

namespace Safeguard

/-- The body of a response. -/
inductive Body
  | empty
  | text (value : String)
  | document (value : Document)

/-- A response. -/
structure Response where
  status : Nat
  /-- The methods that the route takes, if the request came with another one. -/
  allow : Option String := none
  body : Body := .empty

/-- What the admin interface works on. -/
structure AdminState where
  /-- The key that protected routes ask for. -/
  key : Option String
  registry : Registry
  monitor : Monitor
  clock : Clock

/-- A response and what it leaves behind. -/
structure Answer where
  response : Response
  registry : Registry
  notices : List Notice := []
  /-- The round of health checks that was run for the response. -/
  examination : Option Examination := none

/-- The answer with its body left out. -/
def Answer.withoutBody (a : Answer) : Answer :=
  { a with response := { a.response with body := .empty } }

namespace Admin

/-- The name that a segment of a path encodes. -/
def nameOf? (segment : String) : Option String :=
  Text.utf8Decode? (Text.percentDecode segment.toList)

/-- What is said of a segment that encodes no name. -/
def badName : String := "Invalid URL: Invalid UTF-8 in \x60name\x60"

/-- The response to an action that found its breaker, or did not. -/
def actionResponse (success : Bool) : Response where
  status := if success then 200 else 404
  body := .document (.table [("success", .bool success)])

/-- Acts on the breaker that a segment names. -/
def act (segment : String) (registry : Registry)
    (action : String → Bool × Registry × List Notice) (entry : String → Bool → LogEntry) :
    Answer :=
  match nameOf? segment with
  | none => { response := { status := 400, body := .text badName }, registry }
  | some name =>
    let (success, registry, notices) := action name
    { response := actionResponse success, registry
      notices := notices ++ [.log (entry name success)] }

/-- The response that tells how healthy the service is. -/
def healthResponse (h : HealthStatus) : Response where
  status := if h.isUnhealthy then 503 else 200
  body := .document h.encode

/-- The response that tells the status of every breaker. -/
def breakersResponse (statuses : NameMap BreakerStatus) : Response where
  status := 200
  body := .document (.table (statuses.entries.map fun (name, s) => (name, s.encode)))

/-- Does the work of a route. -/
def serve (s : AdminState) (draw : Nat → Float) : Route → Answer
  | .health =>
    let examination := s.monitor.examine s.clock s.registry draw
    { response := healthResponse examination.health, registry := examination.registry
      notices := examination.notices, examination := some examination }
  | .breakers =>
    { response := breakersResponse (s.registry.statuses s.clock.now), registry := s.registry }
  | .reset segment => act segment s.registry s.registry.reset .resetRequested
  | .forceOpen segment =>
    act segment s.registry (s.registry.forceOpen s.clock.now) .forceOpenRequested

/-- The methods that a route lists for a request: nothing if it takes the method. -/
def allowFor (route : Route) (method : String) : Option String :=
  if route.usage.takes method then none else some route.usage.allow

/-- Answers a request to a route. -/
def answerRoute (s : AdminState) (draw : Nat → Float) (request : Request) (route : Route) :
    Answer :=
  let allow := allowFor route request.method
  if route.isProtected && !request.isAuthorized s.key then
    { response := { status := 401, allow }, registry := s.registry
      notices := [.log (.requestUnauthenticated request.path)] }
  else if allow.isSome then { response := { status := 405, allow }, registry := s.registry }
  else if request.method = "HEAD" then (serve s draw route).withoutBody
  else serve s draw route

/-- Answers a request. -/
def answer (s : AdminState) (draw : Nat → Float) (request : Request) : Answer :=
  match Route.ofPath? request.path with
  | none => { response := { status := 404 }, registry := s.registry }
  | some route => answerRoute s draw request route

end Admin

end Safeguard
