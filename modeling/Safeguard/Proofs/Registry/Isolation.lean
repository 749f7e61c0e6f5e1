import Safeguard.Proofs.Breaker.Reports
import Safeguard.Proofs.Registry.Hub
import Safeguard.Proofs.Retry.Polling

/-!
# Dependencies do not interfere

What is seen under one name of a registry in use does not depend on what is done under others.
Two hubs that are alike at a name (`Hub.AlikeAt`) answer every use of it alike and stay alike
(`Hub.AlikeAt.handle`), and uses of other names change nothing there (`Hub.AlikeAt.handle_ne`). So
a run and the run of the steps that name a dependency, at the same moments, show the same of it
(`Hub.isolated`): answers, reports, events, breaker, status and calls.
-/

namespace Safeguard

/-! ## What is reported of others -/

namespace Notice

/-- The events among notices that are about a dependency are about this one. -/
def OnlyAbout (name : String) (notices : List Notice) : Prop :=
  ∀ e ∈ events notices, ∀ other, e.dependency? = some other → other = name

theorem onlyAbout_nil (name : String) : OnlyAbout name [] := fun _ mem =>
  absurd mem List.not_mem_nil

theorem OnlyAbout.append {name : String} {a b : List Notice} (first : OnlyAbout name a)
    (rest : OnlyAbout name b) : OnlyAbout name (a ++ b) := by
  intro e mem
  rw [events_append] at mem
  exact (List.mem_append.1 mem).elim (first e) (rest e)

end Notice

open Notice

theorem Event.dependency?_of_mem_ofChange {name : String} {before after : CircuitState} {e : Event}
    (mem : e ∈ ofChange name before after) : e.dependency? = some name := by
  unfold ofChange at mem
  split at mem
  · cases mem
  · rw [List.mem_singleton.1 mem]
    rfl

namespace Breaker

variable {α : Type}

theorem onlyAbout_ask (b : Breaker) (now : Nat) : OnlyAbout b.name (b.ask now).2.2 := by
  intro e mem other about
  rw [events_ask] at mem
  rcases List.mem_append.1 mem with mem | mem
  · split at mem
    · rw [List.mem_singleton.1 mem] at about
      exact (Option.some.inj about).symm
    · cases mem
  · rw [Event.dependency?_of_mem_ofChange mem] at about
    exact (Option.some.inj about).symm

theorem onlyAbout_settle (b : Breaker) (now : Nat) (reply : CallReply α) :
    OnlyAbout b.name (b.settle now reply).2 := by
  intro e mem other about
  rw [events_settle] at mem
  rcases List.mem_cons.1 mem with rfl | mem
  · exact (Option.some.inj about).symm
  · rw [Event.dependency?_of_mem_ofChange mem] at about
    exact (Option.some.inj about).symm

theorem onlyAbout_reset (b : Breaker) : OnlyAbout b.name b.reset.2 := by
  intro e mem other about
  rw [events_reset] at mem
  rw [Event.dependency?_of_mem_ofChange mem] at about
  exact (Option.some.inj about).symm

theorem onlyAbout_forceOpen (b : Breaker) (now : Nat) : OnlyAbout b.name (b.forceOpen now).2 := by
  intro e mem other about
  rw [events_forceOpen] at mem
  rw [Event.dependency?_of_mem_ofChange mem] at about
  exact (Option.some.inj about).symm

end Breaker

namespace Registry

variable {α : Type} {r : Registry} (named : r.Named) (clock : Clock) (now : Nat) (name : String)

theorem onlyAbout_getOrCreate (r : Registry) (policy : Option BreakerPolicy) :
    OnlyAbout name (r.getOrCreate clock name policy).2.2 := by
  intro e mem
  rw [events_getOrCreate] at mem
  exact absurd mem List.not_mem_nil

include named

theorem onlyAbout_ask (policy : Option BreakerPolicy) :
    OnlyAbout name (r.ask clock name policy).2.2 := by
  have created := (r.becomes_getOrCreate clock name policy).named named
    (r.get?_getOrCreate_self clock name policy)
  have asking := (r.getOrCreate clock name policy).1.onlyAbout_ask clock.now
  rw [created] at asking
  intro e mem
  rw [events_ask] at mem
  exact asking e mem

theorem onlyAbout_settle (reply : CallReply α) : OnlyAbout name (r.settle now name reply).2 := by
  unfold settle
  split
  · rename_i b found
    exact named found ▸ b.onlyAbout_settle now reply
  · exact onlyAbout_nil name

theorem onlyAbout_reset : OnlyAbout name (r.reset name).2.2 := by
  unfold reset
  split
  · rename_i b found
    exact named found ▸ b.onlyAbout_reset
  · exact onlyAbout_nil name

theorem onlyAbout_forceOpen : OnlyAbout name (r.forceOpen now name).2.2 := by
  unfold forceOpen
  split
  · rename_i b found
    exact named found ▸ b.onlyAbout_forceOpen now
  · exact onlyAbout_nil name

end Registry

namespace Retry

variable {α : Type} (r : Retry) (name : String)

/-- Retries are not about a dependency. -/
theorem onlyAbout_failureNotices (attempt : Nat) (error : String) (verdict : Verdict) :
    OnlyAbout name (r.failureNotices attempt error verdict) := by
  intro e mem other about
  cases verdict with
  | again delay =>
    rw [List.mem_singleton.1 mem] at about
    cases about
  | exhausted | permanent | overflow | overBudget => cases mem

theorem onlyAbout_successNotices (attempt : Nat) : OnlyAbout name (successNotices attempt) := by
  intro e mem
  unfold successNotices at mem
  split at mem <;> cases mem

theorem onlyAbout_pollAttempt (begun now left attempt : Nat) (replies : List (Reply α)) :
    OnlyAbout name (r.pollAttempt begun now left attempt replies).notices := by
  induction replies generalizing left attempt with
  | nil =>
    rw [pollAttempt]
    exact onlyAbout_nil name
  | cons reply replies ih =>
    cases reply with
    | ok value =>
      rw [pollAttempt]
      exact onlyAbout_successNotices name attempt
    | error error =>
      obtain ⟨delay, left', -, -, -, eq⟩ | ⟨delay, left', -, -, -, eq⟩ | ⟨-, eq⟩ :=
        r.pollAttempt_of_error begun now left attempt error replies <;> rw [eq]
      · exact (r.onlyAbout_failureNotices name attempt error _).append (ih left' (attempt + 1))
      · exact r.onlyAbout_failureNotices name attempt error (.again delay)
      · exact r.onlyAbout_failureNotices name attempt error _

end Retry

namespace InFlight

variable {α : Type}

theorem onlyAbout_advance (c : InFlight α) (now : Nat) (name : String) :
    OnlyAbout name (c.advance now).notices := by
  unfold advance
  split
  · split <;> exact onlyAbout_nil name
  · rename_i retry sequence _
    change OnlyAbout name (retry.poll sequence now c.replies).notices
    have attempts := retry.onlyAbout_pollAttempt name sequence.begun now sequence.left
      sequence.attempt c.replies
    unfold Retry.poll
    split
    · exact attempts
    · split
      · exact attempts
      · exact onlyAbout_nil name

section

variable {r : Registry} (named : r.Named)

include named

theorem onlyAbout_poll {c : InFlight α} {name : String} (own : c.dependency = name) (now : Nat) :
    OnlyAbout name (c.poll r now).2.2 := by
  obtain ⟨c', -, eq⟩ | ⟨reply, eq⟩ := c.poll_cases now
  · rw [eq]
    exact c.onlyAbout_advance now name
  · rw [eq, own]
    exact (c.onlyAbout_advance now name).append (Registry.onlyAbout_settle named now name reply)

theorem onlyAbout_start (clock : Clock) (name : String) (policy : Option BreakerPolicy)
    (limit : Option Nat) (retry : Option Retry) :
    OnlyAbout name (start (α := α) r clock name policy limit retry).2.2 := by
  have asking := Registry.onlyAbout_ask named clock name policy
  cases answer : (r.ask clock name policy).1 with
  | rejected retryIn => rwa [start_of_rejected r clock name policy limit retry answer]
  | admitted permit =>
    rw [start_of_admitted r clock name policy limit retry answer]
    exact asking.append
      (onlyAbout_poll ((r.becomes_ask clock name policy).named named) rfl clock.now)

end

end InFlight

namespace Hub

variable {α : Type} {h h' : Hub α}

/-- The events of a use that are about a dependency are about that of its name. -/
theorem Sound.onlyAbout_handle (sound : h.Sound) (clock : Clock) (name : String) (use : Use α) :
    OnlyAbout name (h.handle clock name use).2.2 := by
  cases use with
  | policyFor | get | status => exact onlyAbout_nil name
  | getOrCreate policy => exact Registry.onlyAbout_getOrCreate clock name h.registry policy
  | call policy limit retry =>
    exact InFlight.onlyAbout_start sound.named clock name policy limit retry
  | protect change retry => exact InFlight.onlyAbout_start sound.named clock name _ none retry
  | reply call reply | drop call =>
    obtain ⟨-, eq⟩ | ⟨c, -, eq⟩ := h.onCall_cases name call _ <;> rw [handle, eq] <;>
      exact onlyAbout_nil name
  | poll call =>
    obtain ⟨-, eq⟩ | ⟨c, on_its_way, eq⟩ := h.onCall_cases name call _ <;> rw [handle, eq]
    · exact onlyAbout_nil name
    · exact InFlight.onlyAbout_poll sound.named (sound.dependency_call? on_its_way) clock.now
  | reset => exact Registry.onlyAbout_reset sound.named name
  | forceOpen => exact Registry.onlyAbout_forceOpen sound.named clock.now name

/-! ## One name of two hubs -/

/-- Two hubs with the same breaker and the same calls of a name. -/
structure AlikeAt (name : String) (h h' : Hub α) : Prop where
  registry : h.registry.Alike name h'.registry
  calls : h.calls name = h'.calls name

/-- Two results of uses that are the same, with hubs that are alike. -/
def AlikeResultsAt (name : String) (x y : Use.Answer α × Hub α × List Notice) : Prop :=
  x.1 = y.1 ∧ AlikeAt name x.2.1 y.2.1 ∧ x.2.2 = y.2.2

namespace AlikeAt

variable {name : String}

theorem refl (name : String) (h : Hub α) : AlikeAt name h h := ⟨.refl name _, rfl⟩

theorem withRegistry (same : AlikeAt name h h') {r r' : Registry} (alike : r.Alike name r') :
    AlikeAt name (h.withRegistry r) (h'.withRegistry r') := ⟨alike, same.calls⟩

theorem withCalls (same : AlikeAt name h h') (calls : List (Option (InFlight α))) :
    AlikeAt name (h.withCalls name calls) (h'.withCalls name calls) :=
  ⟨same.registry, by rw [calls_withCalls_self, calls_withCalls_self]⟩

theorem begun (same : AlikeAt name h h')
    {found found' : InFlight.Result α × Registry × List Notice}
    (alike : Registry.AlikeResults name found found') :
    AlikeResultsAt name (h.begun name found) (h'.begun name found') := by
  obtain ⟨result, registry, notices⟩ := alike
  rw [Hub.begun, Hub.begun, same.calls, result]
  exact ⟨rfl, (same.withRegistry registry).withCalls _, notices⟩

theorem polled (same : AlikeAt name h h') (call : Nat)
    {found found' : InFlight.Result α × Registry × List Notice}
    (alike : Registry.AlikeResults name found found') :
    AlikeResultsAt name (h.polled name call found) (h'.polled name call found') := by
  obtain ⟨result, registry, notices⟩ := alike
  rw [Hub.polled, Hub.polled, same.calls, result]
  exact ⟨rfl, (same.withRegistry registry).withCalls _, notices⟩

theorem onCall (same : AlikeAt name h h') (call : Nat)
    {act act' : InFlight α → Use.Answer α × Hub α × List Notice}
    (alike : ∀ c, h.call? name call = some c → AlikeResultsAt name (act c) (act' c)) :
    AlikeResultsAt name (h.onCall name call act) (h'.onCall name call act') := by
  have calls : h'.call? name call = h.call? name call := by rw [call?, call?, same.calls]
  unfold Hub.onCall
  rw [calls]
  split
  · rename_i c on_its_way
    exact alike c on_its_way
  · exact ⟨rfl, same, rfl⟩

/-- A use of a name sees and changes only what is there under it. -/
theorem handle (same : AlikeAt name h h') (sound : h.Sound) (clock : Clock) (use : Use α) :
    AlikeResultsAt name (h.handle clock name use) (h'.handle clock name use) := by
  cases use with
  | policyFor => exact ⟨congrArg Use.Answer.policy same.registry.policy, same, rfl⟩
  | getOrCreate policy =>
    obtain ⟨breaker, registry, notices⟩ := same.registry.getOrCreate clock policy
    exact ⟨congrArg (fun b => Use.Answer.breaker (some b)) breaker, same.withRegistry registry,
      notices⟩
  | get => exact ⟨congrArg Use.Answer.breaker same.registry.breaker, same, rfl⟩
  | status => exact ⟨congrArg Use.Answer.status (same.registry.status clock.now), same, rfl⟩
  | call policy limit retry =>
    exact same.begun (InFlight.alike_start same.registry clock policy limit retry)
  | protect change retry =>
    have policy : Protection.policy { dependency := name, change } h.registry =
        Protection.policy { dependency := name, change } h'.registry := by
      simp only [Protection.policy, same.registry.policy]
    simp only [Hub.handle, policy]
    exact same.begun (InFlight.alike_start same.registry clock _ none retry)
  | reply call reply =>
    refine same.onCall call fun c _ => ?_
    rw [same.calls]
    exact ⟨rfl, same.withCalls _, rfl⟩
  | poll call =>
    refine same.onCall call fun c on_its_way => ?_
    exact same.polled call
      (InFlight.alike_poll same.registry (sound.dependency_call? on_its_way) clock.now)
  | drop call =>
    refine same.onCall call fun c on_its_way => ?_
    have registry := InFlight.alike_drop same.registry (sound.dependency_call? on_its_way)
    rw [same.calls]
    exact ⟨rfl, (same.withRegistry registry).withCalls _, rfl⟩
  | reset =>
    obtain ⟨known, registry, notices⟩ := same.registry.reset
    exact ⟨congrArg Use.Answer.known known, same.withRegistry registry, notices⟩
  | forceOpen =>
    obtain ⟨known, registry, notices⟩ := same.registry.forceOpen clock.now
    exact ⟨congrArg Use.Answer.known known, same.withRegistry registry, notices⟩

/-- A use of another name changes nothing. -/
theorem handle_ne (sound : h.Sound) {other : String} (ne : name ≠ other) (clock : Clock)
    (use : Use α) : AlikeAt name (h.handle clock other use).2.1 h := by
  refine ⟨?_, calls_handle_ne h clock ne use⟩
  cases use with
  | policyFor | get | status => exact .refl name _
  | getOrCreate policy => exact .getOrCreate_ne ne h.registry clock policy
  | call policy limit retry =>
    exact InFlight.alike_start_ne ne h.registry clock policy limit retry
  | protect change retry => exact InFlight.alike_start_ne ne h.registry clock _ none retry
  | reply call reply =>
    obtain ⟨-, eq⟩ | ⟨c, -, eq⟩ := h.onCall_cases other call _ <;> rw [Hub.handle, eq] <;>
      exact .refl name _
  | poll call =>
    obtain ⟨-, eq⟩ | ⟨c, on_its_way, eq⟩ := h.onCall_cases other call _ <;> rw [Hub.handle, eq]
    · exact .refl name _
    · exact InFlight.alike_poll_ne ne (sound.dependency_call? on_its_way) h.registry clock.now
  | drop call =>
    obtain ⟨-, eq⟩ | ⟨c, on_its_way, eq⟩ := h.onCall_cases other call _ <;> rw [Hub.handle, eq]
    · exact .refl name _
    · exact InFlight.alike_drop_ne ne (sound.dependency_call? on_its_way) h.registry
  | reset => exact .reset_ne ne h.registry
  | forceOpen => exact .forceOpen_ne ne h.registry clock.now

end AlikeAt

/-! ## Whole runs -/

/-- What a step shows to the one who makes it. -/
structure Line (α : Type) where
  clock : Clock
  name : String
  answer : Use.Answer α
  notices : List Notice

/-- What a step shows. -/
def lineOf (h : Hub α) (s : Step α) : Line α where
  clock := s.clock
  name := s.name
  answer := (h.handle s.clock s.name s.use).1
  notices := (h.handle s.clock s.name s.use).2.2

/-- What the steps of a run show. -/
def transcript (h : Hub α) : List (Step α) → List (Line α)
  | [] => []
  | s :: steps => h.lineOf s :: (h.step s).transcript steps

/-- The events of a run. -/
def events (h : Hub α) (steps : List (Step α)) : List Event :=
  (h.transcript steps).flatMap fun line => Notice.events line.notices

/-- The steps that name a dependency. -/
def stepsOf (name : String) (steps : List (Step α)) : List (Step α) :=
  steps.filter fun s => s.name = name

/-- The events that are about a dependency. -/
def eventsOf (name : String) (events : List Event) : List Event :=
  events.filter fun e => e.dependency? = some name

namespace AlikeAt

variable {name : String}

theorem trans {h'' : Hub α} (first : AlikeAt name h h') (rest : AlikeAt name h' h'') :
    AlikeAt name h h'' :=
  ⟨first.registry.trans rest.registry, first.calls.trans rest.calls⟩

/-- Steps of other names make no difference to a run. -/
theorem run (same : AlikeAt name h h') (sound : h.Sound) (steps : List (Step α)) :
    AlikeAt name (h.run steps) (h'.run (stepsOf name steps)) := by
  induction steps generalizing h h' with
  | nil => exact same
  | cons s steps ih =>
    by_cases own : s.name = name
    · subst own
      rw [stepsOf, List.filter_cons_of_pos (by simp)]
      exact ih (same.handle sound s.clock s.use).2.1 (sound.step s)
    · rw [stepsOf, List.filter_cons_of_neg (by simpa using own)]
      exact ih ((handle_ne sound (Ne.symm own) s.clock s.use).trans same) (sound.step s)

/-- Nor to what the steps of a name show. -/
theorem transcript (same : AlikeAt name h h') (sound : h.Sound) (steps : List (Step α)) :
    ((h.transcript steps).filter fun line => line.name = name) =
      h'.transcript (stepsOf name steps) := by
  induction steps generalizing h h' with
  | nil => rfl
  | cons s steps ih =>
    by_cases own : s.name = name
    · subst own
      obtain ⟨answer, after, notices⟩ := same.handle sound s.clock s.use
      have shown : h.lineOf s = h'.lineOf s := by simp only [Hub.lineOf, answer, notices]
      rw [stepsOf, List.filter_cons_of_pos (by simp), Hub.transcript, Hub.transcript,
        List.filter_cons_of_pos (by simp [Hub.lineOf]), shown]
      exact congrArg (h'.lineOf s :: ·) (ih after (sound.step s))
    · rw [stepsOf, List.filter_cons_of_neg (by simpa using own), Hub.transcript,
        List.filter_cons_of_neg (by simp [Hub.lineOf, own])]
      exact ih ((handle_ne sound (Ne.symm own) s.clock s.use).trans same) (sound.step s)

end AlikeAt

/-- The events that are about a dependency come from the steps that name it. -/
theorem Sound.eventsOf_transcript (sound : h.Sound) (name : String) (steps : List (Step α)) :
    eventsOf name (h.events steps) =
      eventsOf name (((h.transcript steps).filter fun line => line.name = name).flatMap fun line =>
        Notice.events line.notices) := by
  induction steps generalizing h with
  | nil => rfl
  | cons s steps ih =>
    have rest := ih (sound.step s)
    simp only [events, transcript, eventsOf, List.flatMap_cons, List.filter_append] at rest ⊢
    by_cases own : s.name = name
    · rw [List.filter_cons_of_pos (by simp [Hub.lineOf, own]), List.flatMap_cons,
        List.filter_append, rest]
    · rw [List.filter_cons_of_neg (by simp [Hub.lineOf, own]), ← rest]
      have none_about : ((Notice.events (h.lineOf s).notices).filter
          fun e => e.dependency? = some name) = [] := by
        refine List.filter_eq_nil_iff.2 fun e mem about => own ?_
        exact (sound.onlyAbout_handle s.clock s.name s.use e mem name (by simpa using about)).symm
      rw [none_about, List.nil_append]

/-- Looking up, resetting or forcing open a breaker that does not exist changes nothing. -/
theorem handle_of_missing {name : String} (missing : h.registry.get? name = none) (clock : Clock) :
    h.handle clock name .get = (.breaker none, h, []) ∧
      h.handle clock name .reset = (.known false, h, []) ∧
      h.handle clock name .forceOpen = (.known false, h, []) := by
  refine ⟨?_, ?_, ?_⟩
  · rw [handle, missing]
  · rw [handle, Registry.reset_of_get?_eq_none missing]
    rfl
  · rw [handle, Registry.forceOpen_of_get?_eq_none missing]
    rfl

/-- Dependencies do not interfere: what is shown to those who use a name, its events, its breaker,
the policy and the status of that, and its calls are the same in any run as in the run of the steps
that name it, at the same moments. Looking up, resetting and forcing open a breaker that does not
exist answer so, report nothing and leave the registry as it is. -/
theorem isolated (sound : h.Sound) (steps : List (Step α)) (name : String) :
    ((h.transcript steps).filter fun line => line.name = name) =
        h.transcript (stepsOf name steps) ∧
      eventsOf name (h.events steps) = eventsOf name (h.events (stepsOf name steps)) ∧
      (h.run steps).registry.get? name = (h.run (stepsOf name steps)).registry.get? name ∧
      (h.run steps).registry.policyFor name =
        (h.run (stepsOf name steps)).registry.policyFor name ∧
      (∀ now, ((h.run steps).registry.statuses now).get? name =
        ((h.run (stepsOf name steps)).registry.statuses now).get? name) ∧
      (h.run steps).calls name = (h.run (stepsOf name steps)).calls name ∧
      ∀ clock, (h.run steps).registry.get? name = none →
        (h.run steps).handle clock name .get = (.breaker none, h.run steps, []) ∧
        (h.run steps).handle clock name .reset = (.known false, h.run steps, []) ∧
        (h.run steps).handle clock name .forceOpen = (.known false, h.run steps, []) := by
  have lines := (AlikeAt.refl name h).transcript sound steps
  have after := (AlikeAt.refl name h).run sound steps
  refine ⟨lines, ?_, after.registry.breaker, after.registry.policy,
    fun now => after.registry.status now, after.calls, fun clock missing =>
    handle_of_missing missing clock⟩
  rw [sound.eventsOf_transcript name steps, lines]
  rfl

/-- While one dependency is forced open and turns a call away, calls to another one go on and end;
the steps of the one alone show the same. -/
theorem isolated_of_two_dependencies :
    let at_ms (t : Nat) : Clock := { wallStart := 0, now := t * 1000000 }
    let db (t : Nat) (use : Use Unit) : Step Unit := ⟨at_ms t, "db", use⟩
    let cache (t : Nat) (use : Use Unit) : Step Unit := ⟨at_ms t, "cache", use⟩
    let steps := [db 0 (.getOrCreate none), cache 1 (.call none none none), db 2 .forceOpen,
      cache 3 (.reply 0 (.ok ())), db 4 (.call none none none), cache 5 (.poll 0)]
    let hub : Hub Unit := start {}
    hub.events steps =
        [.stateChanged "db" .closed .opened, .callRejected "db", .callCompleted "cache" true] ∧
      eventsOf "db" (hub.events steps) = [.stateChanged "db" .closed .opened, .callRejected "db"] ∧
      eventsOf "db" (hub.events steps) = eventsOf "db" (hub.events (stepsOf "db" steps)) ∧
      (hub.run steps).handle (at_ms 6) "queue" .forceOpen = (.known false, hub.run steps, []) := by
  intro at_ms db cache steps hub
  have sound : hub.Sound := sound_start fun found => absurd found nofun
  obtain ⟨-, events, -⟩ := isolated sound steps "db"
  obtain ⟨-, -, -, -, -, -, missing⟩ := isolated sound steps "queue"
  have none_there : ((hub.run steps).registry.get? "queue").isNone = true := by decide +kernel
  exact ⟨by decide +kernel, by decide +kernel, events,
    (missing (at_ms 6) (Option.isNone_iff_eq_none.1 none_there)).2.2⟩

end Hub

end Safeguard
