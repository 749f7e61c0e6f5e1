import Mathlib.Data.List.Basic
import Safeguard.Simulation.Step

/-!
# Requests that do not present the key

A request `Lacks` a key if its first authorization is missing, cannot be read as text, or is any
other text than the word `Bearer`, one blank and the key. These are exactly the requests that are
turned away where the key is set (`Request.isAuthorized_eq_false_iff`). Whoever is turned away is
told the same whatever the service does, and leaves everything as it was
(`Admin.strangers_learn_and_change_nothing`). So a session goes on as if the requests of strangers
had never come (`Simulation.requests_without_strangers`).
-/

namespace Safeguard

namespace Request

variable {r : Request} {key : String} {route : Route}

/-- Whether a request is one to a route: by its path, and by a method of the route. -/
def Uses (r : Request) (route : Route) : Prop :=
  Route.ofPath? r.path = some route ∧ route.usage.takes r.method = true

/-- How a request can come without the key. -/
inductive Lacks (key : String) (r : Request) : Prop
  | missing (missing : r.authorizations.head? = none)
  | unreadable (value : HeaderValue) (first : r.authorizations.head? = some value)
      (no_text : value.text? = none)
  | another (value : HeaderValue) (first : r.authorizations.head? = some value) (text : String)
      (reads : value.text? = some text) (ne : text ≠ "Bearer " ++ key)

/-- The text of an authorization holds a key exactly if it is the word, the blank and the key. -/
theorem keyOf?_eq_some_iff {text : String} : keyOf? text = some key ↔ text = "Bearer " ++ key := by
  unfold keyOf?
  constructor
  · intro found
    split at found
    · rename_i begins
      obtain ⟨rest, split⟩ := List.isPrefixOf_iff_prefix.mp begins
      cases found
      have dropped : text.toList.drop 7 = rest := by
        rw [← split]
        exact List.drop_left' rfl
      apply String.toList_injective
      rw [dropped, String.toList_append, @String.toList_ofList rest, split]
    · cases found
  · rintro rfl
    have begins : "Bearer ".toList.isPrefixOf ("Bearer " ++ key).toList := by
      rw [String.toList_append]
      exact List.isPrefixOf_iff_prefix.mpr (List.prefix_append _ _)
    rw [if_pos begins, String.toList_append]
    exact congrArg some String.ofList_toList

/-- Where a key is set, a request is turned away exactly if it lacks the key. -/
theorem isAuthorized_eq_false_iff : r.isAuthorized (some key) = false ↔ r.Lacks key := by
  have presents : r.isAuthorized (some key) = true ↔
      ∃ value, r.authorizations.head? = some value ∧ value.text? = some ("Bearer " ++ key) := by
    simp only [isAuthorized, presentedKey, beq_iff_eq, Option.bind_eq_some_iff, keyOf?_eq_some_iff]
    constructor
    · rintro ⟨text, ⟨value, first, reads⟩, rfl⟩
      exact ⟨value, first, reads⟩
    · rintro ⟨value, first, reads⟩
      exact ⟨_, ⟨value, first, reads⟩, rfl⟩
  rw [← Bool.not_eq_true, presents]
  constructor
  · intro absent
    cases first : r.authorizations.head? with
    | none => exact .missing first
    | some value =>
      cases reads : value.text? with
      | none => exact .unreadable value first reads
      | some text =>
        refine .another value first text reads ?_
        rintro rfl
        exact absent ⟨value, first, reads⟩
  · rintro lacks ⟨value, first, reads⟩
    cases lacks with
    | missing none => simp [first] at none
    | unreadable other first' no_text =>
      cases first.symm.trans first'
      simp [reads] at no_text
    | another other first' text reads' ne =>
      cases first.symm.trans first'
      cases reads.symm.trans reads'
      exact ne rfl

end Request

namespace Admin

variable {s s' : AdminState} {key : String} {r r' : Request} {route : Route}

/-- A request that lacks the key is turned away from every route but that of the health. -/
theorem answer_of_lacks (set : s.key = some key) (lacks : r.Lacks key) (uses : r.Uses route)
    (not_health : route ≠ .health) (draw : Nat → Float) :
    answer s draw r =
      { response := { status := 401 }, registry := s.registry
        notices := [.log (.requestUnauthenticated r.path)] } := by
  obtain ⟨path, method⟩ := uses
  have guarded : route.isProtected = true := by
    cases route with
    | health => exact absurd rfl not_health
    | _ => rfl
  have stranger := Request.isAuthorized_eq_false_iff.mpr lacks
  have allowed : allowFor route r.method = none := if_pos method
  simp only [answer, path, answerRoute, guarded, set, stranger, allowed, Bool.not_false,
    Bool.and_self, if_true]

/-- What a route answers to a request that is let through. -/
def served (s : AdminState) (draw : Nat → Float) (r : Request) (route : Route) : Answer :=
  if r.method = "HEAD" then (serve s draw route).withoutBody else serve s draw route

/-- Whoever asks for the health is served, and so is whoever presents the key. -/
theorem answer_of_not_lacks (set : s.key = some key) (uses : r.Uses route)
    (welcome : route = .health ∨ ¬ r.Lacks key) (draw : Nat → Float) :
    answer s draw r = served s draw r route := by
  obtain ⟨path, method⟩ := uses
  have let_through : (route.isProtected && !r.isAuthorized s.key) = false := by
    obtain rfl | presents := welcome
    · rfl
    · have authorized : r.isAuthorized s.key = true := by
        rw [set, ← Bool.not_eq_false, Request.isAuthorized_eq_false_iff]
        exact presents
      rw [authorized, Bool.not_true, Bool.and_false]
  have allowed : allowFor route r.method = none := if_pos method
  simp only [answer, path, answerRoute, let_through, allowed, Option.isSome_none,
    Bool.false_eq_true, if_false, served]

/-- What the health is depends on the registry, the checks and the time alone. -/
theorem answer_health (registry : s.registry = s'.registry) (monitor : s.monitor = s'.monitor)
    (clock : s.clock = s'.clock) (uses : r.Uses .health) (uses' : r'.Uses .health)
    (method : r.method = r'.method) (draw : Nat → Float) : answer s draw r = answer s' draw r' := by
  have same : serve s draw .health = serve s' draw .health := by
    simp only [serve, registry, monitor, clock]
  simp only [answer, uses.1, uses'.1, answerRoute, Route.isProtected, Bool.false_and, method,
    registry, same, Bool.false_eq_true, if_false]

/-- **Strangers learn and change nothing.** Where a key is set that is not empty, a request that
lacks it is answered by one and the same response on all routes but that of the health, whatever the
registry, the checks and the named breaker are. The registry stays as it is, no check is run and no
event is sent. All others are served, and the health is told to everybody alike. -/
theorem strangers_learn_and_change_nothing (set : s.key = effectiveKey (some key))
    (not_empty : key ≠ "") (draw : Nat → Float) :
    (∀ r route, r.Uses route → route ≠ .health → r.Lacks key →
      (answer s draw r).response = { status := 401 } ∧
      (answer s draw r).registry = s.registry ∧
      (answer s draw r).examination = none ∧
      Notice.events (answer s draw r).notices = []) ∧
    (∀ r route, r.Uses route → route = .health ∨ ¬ r.Lacks key →
      answer s draw r = served s draw r route) ∧
    ∀ s' r r', s'.registry = s.registry → s'.monitor = s.monitor → s'.clock = s.clock →
      r.Uses .health → r'.Uses .health → r.method = r'.method →
      answer s' draw r' = answer s draw r := by
  have counts : s.key = some key := by
    rw [set, effectiveKey, Option.filter_some, if_pos (by simpa using not_empty)]
  refine ⟨?_, ?_, ?_⟩
  · intro r route uses not_health lacks
    rw [answer_of_lacks counts lacks uses not_health draw]
    exact ⟨rfl, rfl, rfl, rfl⟩
  · intro r route uses welcome
    exact answer_of_not_lacks counts uses welcome draw
  · intro s' r r' registry monitor clock uses uses' method
    exact answer_health registry monitor clock uses' uses method.symm draw

/-- A breaker that is to be reset by requests without authorization, with one that is no text, and
with one that has two blanks before the key: all are turned away alike, and nothing is reset. -/
theorem strangers_learn_and_change_nothing_of_reset :
    let s : AdminState :=
      { key := effectiveKey (some "s3cret")
        registry := (({} : Registry).getOrCreate { wallStart := 0 } "db" none).2.1
        monitor := { settings := {} }, clock := { wallStart := 0 } }
    ∀ authorizations ∈ [[], [[0xFF]], [Text.utf8Encode "Bearer  s3cret"]],
      let r : Request := ⟨"POST", "/admin/circuit-breakers/db/reset", authorizations⟩
      r.Uses (.reset "db") ∧ r.Lacks "s3cret" ∧
        (answer s (fun _ => 0) r).response = { status := 401 } ∧
        (answer s (fun _ => 0) r).registry = s.registry := by
  intro s authorizations mem r
  have path : Route.ofPath? "/admin/circuit-breakers/db/reset" = some (.reset "db") := by rfl
  have uses : r.Uses (.reset "db") := ⟨path, rfl⟩
  have lacks : r.Lacks "s3cret" := by
    simp only [List.mem_cons, List.not_mem_nil, or_false] at mem
    obtain rfl | rfl | rfl := mem
    · exact .missing rfl
    · exact .unreadable [0xFF] rfl rfl
    · exact .another _ rfl "Bearer  s3cret" rfl (by decide)
  have turned := (strangers_learn_and_change_nothing (s := s) rfl (by decide) (fun _ => 0)).1 r
    (.reset "db") uses nofun lacks
  exact ⟨uses, lacks, turned.1, turned.2.1⟩

end Admin

namespace RequestLine

/-- Whether a line asks one of the routes that ask for the key, and lacks it. -/
def IsStranger (key : String) (line : RequestLine) : Prop :=
  ∃ r route, line.request? = some r ∧ r.Uses route ∧ route ≠ .health ∧ r.Lacks key

end RequestLine

/-! ## Sessions -/

namespace Simulation

variable {key : String} {s : Simulation} {line : RequestLine}

/-- What a stranger is told. -/
def turnedAway : RequestResult := .answered { status := 401 }

@[simp] theorem key_request (s : Simulation) (line : RequestLine) :
    (s.request line).2.1.key = s.key := by
  unfold request
  cases line.request? with
  | none => rfl
  | some r =>
    cases examined : (Admin.answer s.adminState draw r).examination <;> simp [examined, absorb]

/-- The request of a stranger leaves the service as it was. -/
theorem request_of_stranger (set : s.key = some key) (h : line.IsStranger key) :
    ∃ path, s.request line = (turnedAway, s, [.log (.requestUnauthenticated path)]) := by
  obtain ⟨r, route, made, uses, not_health, lacks⟩ := h
  refine ⟨r.path, ?_⟩
  have turned := Admin.answer_of_lacks (s := s.adminState) set lacks uses not_health draw
  simp only [request, made, turned]
  rfl

/-- **Strangers are not noticed.** A session leaves the service, and sends the events, as if the
requests of some strangers had not come. The others are told what they would be told then, and the
strangers that they are turned away. -/
theorem requests_without_strangers (set : s.key = some key) (others : RequestLine → Bool)
    (strangers : ∀ line, others line = false → line.IsStranger key) (lines : List RequestLine) :
    let session := requests lines s
    let without := requests (lines.filter others) s
    session.2.1 = without.2.1 ∧ Notice.events session.2.2 = Notice.events without.2.2 ∧
      ((lines.zip session.1).filter fun told => others told.1).map Prod.snd = without.1 ∧
      ∀ told ∈ lines.zip session.1, others told.1 = false → told.2 = turnedAway := by
  induction lines generalizing s with
  | nil => exact ⟨rfl, rfl, rfl, nofun⟩
  | cons line lines ih =>
    cases other : others line with
    | true =>
      obtain ⟨left, sent, told, away⟩ := ih ((key_request s line).trans set)
      simp only [requests, List.filter_cons, other, if_true, Notice.events_append,
        List.zip_cons_cons, List.map_cons]
      refine ⟨left, congrArg _ sent, congrArg _ told, ?_⟩
      rintro told' (_ | ⟨_, later⟩) stranger
      · simp [other] at stranger
      · exact away told' later stranger
    | false =>
      obtain ⟨path, turned⟩ := request_of_stranger set (strangers line other)
      obtain ⟨left, sent, told, away⟩ := ih set
      simp only [requests, turned, List.filter_cons, other, Bool.false_eq_true, if_false,
        Notice.events_append, List.zip_cons_cons]
      refine ⟨left, sent, told, ?_⟩
      rintro told' (_ | ⟨_, later⟩) stranger
      · rfl
      · exact away told' later stranger

end Simulation

end Safeguard
