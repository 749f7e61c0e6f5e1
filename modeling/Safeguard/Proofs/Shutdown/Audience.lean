import Mathlib.Data.List.Basic
import Mathlib.Data.Nat.Basic
import Safeguard.Shutdown

/-!
# Everybody who listens for the shutdown signal

An `Audience` is a signal with those who listen for it: subscriptions that are read, and waits that
subscribe when they are first polled. An `Audience.Deed` is one thing that happens: the signal is
given, a handle comes or goes, somebody subscribes, reads, is polled or leaves. `Audience.run`
carries out deeds in any order.

The channel has one place, so that a signal overwrites the one before. What is lost by this is
measured against an inbox with room for all: every listener keeps the numbers of the signals that
were given since it subscribed and that no read of its own has consumed (`Listener.unread`). The
cursor of a subscription is always as many signals behind the channel as its inbox holds
(`Listener.UpToDate`), so a wait is resolved exactly if the inbox is not empty
(`Audience.no_signal_lost`). Somebody who has subscribed and has not read yet is therefore resolved
exactly if the signal was given meanwhile (`Audience.resolved_iff_triggered`).
-/

namespace Safeguard

/-- Somebody who listens for the signal. -/
structure Listener where
  waiter : Waiter
  /-- How often the signal had been given when the subscription was made. -/
  since : Nat := 0
  /-- The signals given since the subscription that no read has consumed, by their numbers. -/
  unread : List Nat := []
  deriving DecidableEq

namespace Listener

/-- Whether the listener has a subscription. -/
def isSubscribed (l : Listener) : Bool :=
  match l.waiter with
  | .idle => false
  | .subscribed _ => true

/-- The listener after a signal of some number, which reaches those who are subscribed. -/
def hear (number : Nat) (l : Listener) : Listener :=
  if l.isSubscribed then { l with unread := l.unread ++ [number] } else l

/-- What a read finds, going by the inbox. -/
def finding : List Nat → Reading
  | [] => .empty
  | [_] => .signal
  | _ :: _ :: _ => .lagged

/-- What a read leaves in the inbox: the newest of several signals, and nothing of one. -/
def left : List Nat → List Nat
  | [] | [_] => []
  | _ :: second :: rest => [(second :: rest).getLast (by simp)]

/-- The listener after a read. -/
def read (s : Signal) (l : Listener) : Listener :=
  match l.waiter with
  | .idle => l
  | .subscribed r => { l with waiter := .subscribed (r.read s).2, unread := left l.unread }

/-- The listener that goes on waiting after a poll, if it does. -/
def poll (given : Nat) (s : Signal) (l : Listener) : Option Listener :=
  (l.waiter.poll s).1.map fun waiter =>
    { l with waiter, since := if l.isSubscribed then l.since else given }

end Listener

/-- A signal with those who listen for it. -/
structure Audience where
  signal : Signal := {}
  /-- How often the signal was given, to somebody or not. -/
  given : Nat := 0
  /-- Those who have come, in order; none for those who have left. -/
  listeners : List (Option Listener) := []

namespace Audience

/-- Something that happens to the signal or to a listener. -/
inductive Deed
  | clone
  | release
  | trigger
  | subscribe
  /-- A wait is set up, which subscribes when it is first polled. -/
  | await
  /-- A subscription is read, and goes on. -/
  | read (listener : Nat)
  /-- A wait is polled, and ends with its subscription if it is resolved. -/
  | poll (listener : Nat)
  | leave (listener : Nat)
  deriving DecidableEq

/-- Whether a deed is one of a listener's own. -/
def Deed.isOf (i : Nat) : Deed → Bool
  | .read j | .poll j | .leave j => j == i
  | _ => false

/-- A listener who has not left. -/
def listener? (a : Audience) (i : Nat) : Option Listener := (a.listeners[i]?).join

/-- The audience with a listener changed or gone. -/
def set (a : Audience) (i : Nat) (signal : Signal) (l : Option Listener) : Audience :=
  { a with signal, listeners := a.listeners.set i l }

/-- The audience with one more listener. -/
def join (a : Audience) (signal : Signal) (l : Listener) : Audience :=
  { a with signal, listeners := a.listeners ++ [some l] }

/-- The audience after a deed. A deed of somebody who is not there does nothing. -/
def step (a : Audience) : Deed → Audience
  | .clone => { a with signal := a.signal.clone }
  | .release => { a with signal := a.signal.release }
  | .trigger =>
    { a with
      signal := a.signal.trigger
      given := a.given + 1
      listeners := a.listeners.map (Option.map (Listener.hear a.given)) }
  | .subscribe =>
    a.join a.signal.subscribe.2 { waiter := .subscribed a.signal.subscribe.1, since := a.given }
  | .await => a.join a.signal { waiter := .idle, since := a.given }
  | .read i =>
    match a.listener? i with
    | some l => a.set i a.signal (some (l.read a.signal))
    | none => a
  | .poll i =>
    match a.listener? i with
    | some l => a.set i (l.waiter.poll a.signal).2 (l.poll a.given a.signal)
    | none => a
  | .leave i =>
    match a.listener? i with
    | some l => a.set i (l.waiter.drop a.signal) none
    | none => a

/-- The audience after deeds, one after the other. -/
def run (a : Audience) (deeds : List Deed) : Audience := deeds.foldl step a

/-- How many listeners have a subscription. -/
def subscriptions (a : Audience) : Nat := a.listeners.countP (Option.any Listener.isSubscribed)

end Audience

/-! ## What a listener finds -/

namespace Listener

/-- The inbox holds the newest of the signals given since the subscription, as many as the cursor
of the subscription still has before it. A listener without a subscription has an empty inbox. -/
structure UpToDate (sent given : Nat) (l : Listener) : Prop where
  idle : l.waiter = .idle → l.unread = []
  behind : ∀ r, l.waiter = .subscribed r → r.next + l.unread.length = sent
  since_le : l.since ≤ given
  newest : l.unread <:+ List.range' l.since (given - l.since)

/-- A read takes signals from the old end of the inbox. -/
theorem left_suffix : ∀ unread : List Nat, left unread <:+ unread
  | [] => List.suffix_rfl
  | [_] => List.nil_suffix
  | first :: second :: rest =>
    ⟨first :: (second :: rest).dropLast, by
      rw [left, List.cons_append, List.dropLast_append_getLast]⟩

theorem isSubscribed_hear (number : Nat) (l : Listener) :
    (l.hear number).isSubscribed = l.isSubscribed := by
  unfold hear
  split <;> rfl

theorem isSubscribed_read (s : Signal) (l : Listener) :
    (l.read s).isSubscribed = l.isSubscribed := by
  rcases l with ⟨_ | r, since, unread⟩ <;> rfl

namespace UpToDate

variable {s : Signal} {sent given : Nat} {l : Listener} {r : Receiver}

/-- What a read gives, by what is in the inbox. -/
theorem read_eq (h : l.UpToDate s.sent given) (subscribed : l.waiter = .subscribed r) :
    r.read s =
      match l.unread with
      | [] => (if s.handles = 0 then .closed else .empty, r)
      | [_] => (.signal, ⟨s.sent⟩)
      | _ :: _ :: _ => (.lagged, ⟨s.sent - 1⟩) := by
  have behind := h.behind r subscribed
  rcases unread : l.unread with _ | ⟨first, _ | ⟨second, rest⟩⟩ <;>
    simp only [unread, List.length_nil, List.length_cons] at behind
  · exact r.read_of_none (by omega)
  · exact r.read_of_one (by omega)
  · exact r.read_of_more (by omega)

/-- As long as there is a handle, a read finds what is in the inbox. -/
theorem read_fst (h : l.UpToDate s.sent given) (subscribed : l.waiter = .subscribed r)
    (alive : 0 < s.handles) : (r.read s).1 = finding l.unread := by
  rw [h.read_eq subscribed]
  rcases l.unread with _ | ⟨first, _ | ⟨second, rest⟩⟩ <;> simp [finding, Nat.ne_of_gt alive]

/-- A read moves the cursor past what it takes from the inbox. -/
theorem next_read (h : l.UpToDate s.sent given) (subscribed : l.waiter = .subscribed r) :
    (r.read s).2.next + (left l.unread).length = s.sent := by
  have behind := h.behind r subscribed
  rw [h.read_eq subscribed]
  rcases unread : l.unread with _ | ⟨first, _ | ⟨second, rest⟩⟩ <;>
    simp only [unread, List.length_nil, List.length_cons] at behind <;> simp [left] <;> omega

/-- As long as there is a handle, a poll resolves the wait exactly if there is something unread. -/
theorem poll_eq_none_iff (h : l.UpToDate s.sent given) (alive : 0 < s.handles) :
    (l.waiter.poll s).1 = none ↔ l.unread ≠ [] := by
  cases waiter : l.waiter with
  | idle =>
    rw [Waiter.poll_idle, Waiter.poll_subscribed, Receiver.read_subscribe alive]
    simp [h.idle waiter]
  | subscribed r =>
    rw [Waiter.poll_subscribed, h.read_fst waiter alive]
    rcases l.unread with _ | ⟨first, _ | ⟨second, rest⟩⟩ <;> simp [finding]

/-! ### What stays up to date -/

/-- A listener who has just subscribed. -/
theorem subscribed (given : Nat) (s : Signal) :
    UpToDate s.sent given { waiter := .subscribed s.subscribe.1, since := given } where
  idle := nofun
  behind := by rintro _ ⟨⟩; rfl
  since_le := Nat.le_refl _
  newest := List.nil_suffix

/-- A listener who waits and is not subscribed yet. -/
theorem awaiting (sent given : Nat) : UpToDate sent given { waiter := .idle, since := given } where
  idle _ := rfl
  behind := nofun
  since_le := Nat.le_refl _
  newest := List.nil_suffix

theorem read (h : l.UpToDate s.sent given) : (l.read s).UpToDate s.sent given := by
  cases waiter : l.waiter with
  | idle => simpa only [Listener.read, waiter] using h
  | subscribed r =>
    simp only [Listener.read, waiter]
    exact
      { idle := nofun
        behind := by
          rintro _ ⟨⟩
          exact h.next_read waiter
        since_le := h.since_le
        newest := (left_suffix l.unread).trans h.newest }

/-- A wait that goes on after a poll. One that was idle has subscribed now. -/
theorem poll (h : l.UpToDate s.sent given) {l' : Listener} (goes : l.poll given s = some l') :
    l'.UpToDate s.sent given := by
  obtain ⟨waiter', goesOn, rfl⟩ := Option.map_eq_some_iff.mp goes
  rcases l with ⟨_ | r, since, unread⟩
  · have empty : unread = [] := h.idle rfl
    rw [Waiter.poll_idle, Waiter.poll_subscribed] at goesOn
    split at goesOn
    · cases goesOn
      rw [empty]
      exact UpToDate.subscribed given s
    · cases goesOn
  · rw [Waiter.poll_subscribed] at goesOn
    split at goesOn
    · cases goesOn
      exact h
    · cases goesOn

/-- A signal that is sent goes into the inbox of whoever is subscribed. -/
theorem hear (h : l.UpToDate sent given) : (l.hear given).UpToDate (sent + 1) (given + 1) := by
  have longer : List.range' l.since (given + 1 - l.since) =
      List.range' l.since (given - l.since) ++ [given] := by
    have since_le := h.since_le
    rw [Nat.succ_sub since_le, List.range'_1_concat, Nat.add_sub_cancel' since_le]
  cases waiter : l.waiter with
  | idle =>
    have deaf : l.hear given = l := by simp [Listener.hear, isSubscribed, waiter]
    rw [deaf]
    exact
      { idle := h.idle
        behind := by simp [waiter]
        since_le := Nat.le_succ_of_le h.since_le
        newest := h.idle waiter ▸ List.nil_suffix }
  | subscribed r =>
    have heard : l.hear given = { l with unread := l.unread ++ [given] } := by
      simp [Listener.hear, isSubscribed, waiter]
    rw [heard]
    exact
      { idle := by simp [waiter]
        behind := by
          intro r' subscribed
          have behind := h.behind r' subscribed
          simp only [List.length_append, List.length_singleton]
          omega
        since_le := Nat.le_succ_of_le h.since_le
        newest := by
          rw [longer]
          obtain ⟨read, all⟩ := h.newest
          exact ⟨read, by rw [← List.append_assoc, all]⟩ }

/-- A signal that is not sent passes whoever is not subscribed. -/
theorem pass (h : l.UpToDate sent given) (unsubscribed : l.isSubscribed = false) :
    (l.hear given).UpToDate sent (given + 1) := by
  have idle : l.waiter = .idle := by
    cases waiter : l.waiter <;> simp [isSubscribed, waiter] at unsubscribed ⊢
  rw [Listener.hear, if_neg (by simp [unsubscribed])]
  exact
    { idle := h.idle
      behind := h.behind
      since_le := Nat.le_succ_of_le h.since_le
      newest := h.idle idle ▸ List.nil_suffix }

end UpToDate

end Listener

/-! ## The whole audience -/

namespace Audience

open Listener (UpToDate)

/-- The channel counts the subscriptions there are, and every listener is up to date. -/
structure Sound (a : Audience) : Prop where
  subscribers : a.signal.subscribers = a.subscriptions
  upToDate : ∀ l, some l ∈ a.listeners → l.UpToDate a.signal.sent a.given

variable {a : Audience} {i : Nat} {l : Listener} {s : Signal}

theorem sound_start : ({} : Audience).Sound where
  subscribers := rfl
  upToDate := by simp

theorem getElem?_of_listener? (here : a.listener? i = some l) : a.listeners[i]? = some (some l) :=
  Option.join_eq_some_iff.mp here

theorem mem_of_listener? (here : a.listener? i = some l) : some l ∈ a.listeners :=
  List.mem_of_getElem? (getElem?_of_listener? here)

theorem isSubscribed_le_subscriptions (here : some l ∈ a.listeners) :
    l.isSubscribed.toNat ≤ a.subscriptions := by
  cases subscribed : l.isSubscribed
  · exact Nat.zero_le _
  · exact List.countP_pos_iff.mpr ⟨some l, here, subscribed⟩

theorem subscriptions_join :
    (a.join s l).subscriptions = a.subscriptions + l.isSubscribed.toNat := by
  rw [subscriptions, join, List.countP_append, subscriptions]
  cases subscribed : l.isSubscribed <;> simp [subscribed]

theorem subscriptions_set (here : a.listener? i = some l) (l' : Option Listener) :
    (a.set i s l').subscriptions + l.isSubscribed.toNat =
      a.subscriptions + (l'.any Listener.isSubscribed).toNat := by
  obtain ⟨lt, eq⟩ := List.getElem?_eq_some_iff.mp (getElem?_of_listener? here)
  have counted := isSubscribed_le_subscriptions (eq ▸ List.getElem_mem lt)
  have changed : (a.set i s l').subscriptions =
      a.subscriptions - l.isSubscribed.toNat + (l'.any Listener.isSubscribed).toNat := by
    simp only [subscriptions, set, List.countP_set lt, eq, Option.any_some]
    cases l.isSubscribed <;> cases l'.any Listener.isSubscribed <;> rfl
  omega

/-- A waiter that is polled takes out a subscription if it has none, and gives it back if it is
resolved. -/
theorem subscribers_poll (given : Nat) (counted : l.isSubscribed.toNat ≤ s.subscribers) :
    (l.waiter.poll s).2.subscribers + l.isSubscribed.toNat =
      s.subscribers + ((l.poll given s).any Listener.isSubscribed).toNat := by
  rcases l with ⟨_ | r, since, unread⟩
  · simp only [Listener.poll, Waiter.poll_idle, Waiter.poll_subscribed]
    split <;> simp [Listener.isSubscribed, Signal.unsubscribe]
  · simp only [Listener.poll, Waiter.poll_subscribed]
    split
    · rfl
    · exact Nat.sub_add_cancel counted

theorem subscribers_drop (counted : l.isSubscribed.toNat ≤ s.subscribers) :
    (l.waiter.drop s).subscribers + l.isSubscribed.toNat = s.subscribers := by
  rcases l with ⟨_ | r, since, unread⟩
  · rfl
  · exact Nat.sub_add_cancel counted

namespace Sound

/-- Whoever joins adds a subscription if there is one. -/
theorem join (h : a.Sound) (sent : s.sent = a.signal.sent)
    (subscribers : s.subscribers = a.signal.subscribers + l.isSubscribed.toNat)
    (upToDate : l.UpToDate a.signal.sent a.given) : (a.join s l).Sound where
  subscribers := by
    rw [subscriptions_join, ← h.subscribers]
    exact subscribers
  upToDate := by
    intro k mem
    show k.UpToDate s.sent a.given
    rw [sent]
    obtain old | new := List.mem_append.mp mem
    · exact h.upToDate k old
    · cases List.mem_singleton.mp new
      exact upToDate

/-- A listener who changes or goes takes the old subscription along and leaves the new one. -/
theorem set (h : a.Sound) (here : a.listener? i = some l) {l' : Option Listener}
    (sent : s.sent = a.signal.sent)
    (subscribers : s.subscribers + l.isSubscribed.toNat =
      a.signal.subscribers + (l'.any Listener.isSubscribed).toNat)
    (upToDate : ∀ k, l' = some k → k.UpToDate a.signal.sent a.given) : (a.set i s l').Sound where
  subscribers := by
    have counted := subscriptions_set (s := s) here l'
    rw [← h.subscribers] at counted
    show s.subscribers = _
    omega
  upToDate := by
    intro k mem
    show k.UpToDate s.sent a.given
    rw [sent]
    obtain old | new := List.mem_or_eq_of_mem_set mem
    · exact h.upToDate k old
    · exact upToDate k new.symm

/-- The signal goes into the inbox of everybody who is subscribed. -/
theorem trigger (h : a.Sound) : (a.step .trigger).Sound where
  subscribers := by
    have same : (a.step .trigger).subscriptions = a.subscriptions := by
      simp only [subscriptions, Audience.step, List.countP_map]
      congr 1
      funext l
      cases l <;> simp [Listener.isSubscribed_hear]
    rw [same, ← h.subscribers]
    exact a.signal.subscribers_trigger
  upToDate := by
    intro k mem
    obtain ⟨_, here, eq⟩ := List.mem_map.mp mem
    obtain ⟨l, rfl, rfl⟩ := Option.map_eq_some_iff.mp eq
    have before := h.upToDate l here
    show UpToDate a.signal.trigger.sent (a.given + 1) _
    obtain nobody | somebody := Nat.eq_zero_or_pos a.signal.subscribers
    · have counted := isSubscribed_le_subscriptions here
      rw [← h.subscribers, nobody, Nat.le_zero, Bool.toNat_eq_zero] at counted
      rw [Signal.trigger_of_none nobody]
      exact before.pass counted
    · rw [Signal.sent_trigger somebody]
      exact before.hear

/-- Whatever happens, the audience stays sound. -/
theorem step (h : a.Sound) (d : Deed) : (a.step d).Sound := by
  cases d with
  | clone => exact ⟨h.subscribers, h.upToDate⟩
  | release => exact ⟨h.subscribers, h.upToDate⟩
  | trigger => exact h.trigger
  | subscribe => exact h.join rfl rfl (UpToDate.subscribed a.given a.signal)
  | await => exact h.join rfl rfl (UpToDate.awaiting a.signal.sent a.given)
  | read i =>
    simp only [Audience.step]
    split
    · rename_i l here
      have mem := mem_of_listener? here
      refine h.set here rfl ?_ ?_
      · rw [Option.any_some, Listener.isSubscribed_read]
      · rintro _ ⟨⟩
        exact (h.upToDate l mem).read
    · exact h
  | poll i =>
    simp only [Audience.step]
    split
    · rename_i l here
      have mem := mem_of_listener? here
      have counted := h.subscribers ▸ isSubscribed_le_subscriptions mem
      refine h.set here (l.waiter.sent_poll _) (subscribers_poll a.given counted) ?_
      intro k goes
      exact (h.upToDate l mem).poll goes
    · exact h
  | leave i =>
    simp only [Audience.step]
    split
    · rename_i l here
      have mem := mem_of_listener? here
      have counted := h.subscribers ▸ isSubscribed_le_subscriptions mem
      exact h.set here (l.waiter.sent_drop _) (subscribers_drop counted) nofun
    · exact h

theorem run (h : a.Sound) (deeds : List Deed) : (a.run deeds).Sound := by
  induction deeds generalizing a with
  | nil => exact h
  | cons d deeds ih => exact ih (h.step d)

end Sound

/-! ### What others do -/

theorem listener?_set_ne {j : Nat} {l' : Option Listener} (ne : j ≠ i) :
    (a.set j s l').listener? i = a.listener? i := by
  rw [listener?, set, List.getElem?_set_ne ne, listener?]

theorem listener?_join (here : a.listener? i = some l) (l' : Listener) :
    (a.join s l').listener? i = some l := by
  obtain ⟨lt, -⟩ := List.getElem?_eq_some_iff.mp (getElem?_of_listener? here)
  rw [listener?, join, List.getElem?_append_left lt]
  exact here

theorem given_step (a : Audience) (d : Deed) :
    (a.step d).given = if d = .trigger then a.given + 1 else a.given := by
  cases d with
  | read i | poll i | leave i =>
    simp only [step]
    split <;> rfl
  | _ => rfl

/-- A listener hears the signal, and nothing else that others do. -/
theorem listener?_step (here : a.listener? i = some l) {d : Deed} (other : d.isOf i = false) :
    (a.step d).listener? i = some (if d = .trigger then l.hear a.given else l) := by
  cases d with
  | clone | release => exact here
  | trigger => simp [step, listener?, getElem?_of_listener? here]
  | subscribe | await => exact listener?_join here _
  | read j | poll j | leave j =>
    have ne : j ≠ i := by simpa [Deed.isOf] using other
    simp only [step]
    split
    · rw [listener?_set_ne ne, here]
      rfl
    · exact here

/-- Until the next deed of its own, a listener who is subscribed keeps every signal. -/
theorem listener?_run (here : a.listener? i = some l) (subscribed : l.isSubscribed = true)
    {deeds : List Deed} (others : ∀ d ∈ deeds, d.isOf i = false) :
    (a.run deeds).listener? i =
      some { l with unread := l.unread ++ List.range' a.given (deeds.count .trigger) } := by
  induction deeds generalizing a l with
  | nil => simpa [run] using here
  | cons d deeds ih =>
    have next := listener?_step here (others d List.mem_cons_self)
    have given := given_step a d
    have later := fun e mem => others e (List.mem_cons_of_mem d mem)
    by_cases signal : d = .trigger
    · subst signal
      rw [if_pos rfl, Listener.hear, if_pos subscribed] at next
      have kept := ih next subscribed later
      rw [given, if_pos rfl, List.append_assoc, List.singleton_append, ← List.range'_succ] at kept
      rw [List.count_cons_self]
      exact kept
    · rw [if_neg signal] at next
      have kept := ih next subscribed later
      rw [given, if_neg signal] at kept
      rw [List.count_cons_of_ne signal]
      exact kept

/-- **Nobody who listens misses the signal.** As long as there is a handle, the wait of somebody who
subscribes and has not read is resolved exactly if the signal was given after that, by whomever and
however often. -/
theorem resolved_iff_triggered (before after : List Deed)
    (others : ∀ d ∈ after, d.isOf (run {} before).listeners.length = false)
    (alive : 0 < (run {} (before ++ .subscribe :: after)).signal.handles) :
    let a := run {} (before ++ .subscribe :: after)
    ∃ l, a.listener? (run {} before).listeners.length = some l ∧
      ((l.waiter.poll a.signal).1 = none ↔ .trigger ∈ after) := by
  intro a
  have whole : a = ((run {} before).step .subscribe).run after := List.foldl_append
  have joined : ((run {} before).step .subscribe).listener? (run {} before).listeners.length =
      some { waiter := .subscribed (run {} before).signal.subscribe.1
             since := (run {} before).given } := by
    simp [step, join, listener?]
  have here := whole ▸ listener?_run joined rfl others
  have upToDate := (sound_start.run _).upToDate _ (mem_of_listener? here)
  refine ⟨_, here, (upToDate.poll_eq_none_iff alive).trans ?_⟩
  simp [List.range'_eq_nil_iff, List.count_eq_zero]

/-! ### Every listener -/

/-- In every run from the beginning, as long as there is a handle: a wait is resolved exactly if a
signal was given since its subscription that no read of its own has consumed, and a wait that has
not subscribed is not resolved by its first poll. Reads take signals from the old end of those given
since the subscription, and find none, one or that several were missed as there are none, one or
several left. The channel counts the subscriptions that are neither resolved nor given up. -/
theorem no_signal_lost (deeds : List Deed) (alive : 0 < (run {} deeds).signal.handles) :
    let a := run {} deeds
    a.signal.subscribers = a.subscriptions ∧
      ∀ i l, a.listener? i = some l →
        ((l.waiter.poll a.signal).1 = none ↔ l.unread ≠ []) ∧
        l.unread <:+ List.range' l.since (a.given - l.since) ∧
        ∀ r, l.waiter = .subscribed r → (r.read a.signal).1 = Listener.finding l.unread := by
  intro a
  have sound : a.Sound := sound_start.run deeds
  refine ⟨sound.subscribers, ?_⟩
  intro i l here
  have upToDate := sound.upToDate l (mem_of_listener? here)
  refine ⟨upToDate.poll_eq_none_iff alive, upToDate.newest, ?_⟩
  intro r subscribed
  exact upToDate.read_fst subscribed alive

/-- Both signals were given before the first listener read, and the second listener subscribed after
them: the wait of the one is resolved, and the other goes on waiting. -/
theorem no_signal_lost_of_overwritten :
    let a := run {} [.subscribe, .await, .trigger, .clone, .trigger, .release, .poll 1]
    0 < a.signal.handles ∧ a.signal.subscribers = 2 ∧
      (∃ l, a.listener? 0 = some l ∧ l.unread = [0, 1] ∧ (l.waiter.poll a.signal).1 = none) ∧
      ∃ l, a.listener? 1 = some l ∧ l.unread = [] ∧ (l.waiter.poll a.signal).1 ≠ none := by
  have alive : 0 < (run {} [.subscribe, .await, .trigger, .clone, .trigger, .release,
      .poll 1]).signal.handles := by decide
  obtain ⟨subscribers, served⟩ := no_signal_lost _ alive
  have first := served 0 ⟨.subscribed ⟨0⟩, 0, [0, 1]⟩ rfl
  have second := served 1 ⟨.subscribed ⟨2⟩, 2, []⟩ rfl
  refine ⟨alive, subscribers, ⟨_, rfl, rfl, first.1.mpr ?_⟩, ⟨_, rfl, rfl, fun resolved => ?_⟩⟩
  · exact List.cons_ne_nil 0 [1]
  · exact second.1.mp resolved rfl

end Audience

end Safeguard
