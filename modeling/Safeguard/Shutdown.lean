/-!
# The shutdown signal

Any number of receivers subscribe to one signal, which may be given more than once. The channel
keeps only the newest signal: a receiver that has missed older ones is told so by its next read,
and gets the newest signal by the one after. A signal that is given while nobody is subscribed
reaches nobody, and one given before a subscription is never seen by it.

The signal is subscribed to and given through handles, which all share the one channel. When the
last handle is gone no further signal can come, and a read that would find nothing finds the
channel closed.

A `Waiter` waits for the signal. It subscribes when it is first polled, and resolves at the first
read that finds anything.
-/

namespace Safeguard

/-- The channel that all receivers share. -/
structure Signal where
  /-- How often the signal was given to somebody. -/
  sent : Nat := 0
  /-- How many receivers are subscribed. -/
  subscribers : Nat := 0
  /-- Through how many handles the signal can be given. -/
  handles : Nat := 1
  deriving DecidableEq

/-- A subscription: the number of the next signal that it is to see. -/
structure Receiver where
  next : Nat
  deriving DecidableEq

/-- What a read finds. -/
inductive Reading
  | signal
  | empty
  /-- Signals were missed. -/
  | lagged
  /-- There is nothing, and nothing can come. -/
  | closed
  deriving DecidableEq

namespace Reading

/-- The name of a reading. -/
def name : Reading → String
  | signal => "signal"
  | empty => "empty"
  | lagged => "lagged"
  | closed => "closed"

end Reading

namespace Signal

/-- Subscribes a new receiver. -/
def subscribe (s : Signal) : Receiver × Signal :=
  (⟨s.sent⟩, { s with subscribers := s.subscribers + 1 })

/-- Takes a receiver out. -/
def unsubscribe (s : Signal) : Signal := { s with subscribers := s.subscribers - 1 }

/-- Adds a handle. -/
def clone (s : Signal) : Signal := { s with handles := s.handles + 1 }

/-- Takes a handle away. -/
def release (s : Signal) : Signal := { s with handles := s.handles - 1 }

/-- Gives the signal. -/
def trigger (s : Signal) : Signal :=
  if s.subscribers = 0 then s else { s with sent := s.sent + 1 }

@[simp] theorem subscribers_trigger (s : Signal) : s.trigger.subscribers = s.subscribers := by
  unfold trigger
  split <;> rfl

@[simp] theorem subscribers_subscribe (s : Signal) :
    s.subscribe.2.subscribers = s.subscribers + 1 := rfl

@[simp] theorem sent_subscribe (s : Signal) : s.subscribe.2.sent = s.sent := rfl

@[simp] theorem sent_unsubscribe (s : Signal) : s.unsubscribe.sent = s.sent := rfl

/-- A signal is not sent if nobody is subscribed. -/
theorem trigger_of_none {s : Signal} (h : s.subscribers = 0) : s.trigger = s := if_pos h

/-- A signal is sent if somebody is subscribed. -/
theorem sent_trigger {s : Signal} (h : 0 < s.subscribers) : s.trigger.sent = s.sent + 1 := by
  rw [trigger, if_neg (Nat.ne_of_gt h)]

end Signal

namespace Receiver

/-- Reads without waiting. -/
def read (r : Receiver) (s : Signal) : Reading × Receiver :=
  if s.sent ≤ r.next then (if s.handles = 0 then .closed else .empty, r)
  else if r.next + 1 < s.sent then (.lagged, ⟨s.sent - 1⟩)
  else (.signal, ⟨r.next + 1⟩)

section Read

variable (r : Receiver) {s : Signal}

theorem read_of_none (h : s.sent ≤ r.next) :
    r.read s = (if s.handles = 0 then .closed else .empty, r) := by
  rw [read, if_pos h]

theorem read_of_one (h : s.sent = r.next + 1) : r.read s = (.signal, ⟨s.sent⟩) := by
  rw [read, if_neg (by omega), if_neg (by omega), h]

theorem read_of_more (h : r.next + 1 < s.sent) : r.read s = (.lagged, ⟨s.sent - 1⟩) := by
  rw [read, if_neg (by omega), if_pos h]

end Read

/-- A signal that was given before the subscription is not seen. -/
theorem read_subscribe {s : Signal} (h : 0 < s.handles) :
    s.subscribe.1.read s.subscribe.2 = (.empty, s.subscribe.1) := by
  have alive : s.subscribe.2.handles ≠ 0 := Nat.ne_of_gt h
  rw [read_of_none _ (Nat.le_refl s.sent), if_neg alive]

end Receiver

/-- Somebody who waits for the signal, subscribed or not yet polled. -/
inductive Waiter
  | idle
  | subscribed (receiver : Receiver)
  deriving DecidableEq

namespace Waiter

/-- The subscription of a waiter, which it takes out if it has none. -/
def receiver (w : Waiter) (s : Signal) : Receiver × Signal :=
  match w with
  | idle => s.subscribe
  | subscribed receiver => (receiver, s)

/-- Looks for the signal: the waiter that goes on waiting, or none if it is resolved. -/
def poll (w : Waiter) (s : Signal) : Option Waiter × Signal :=
  let (receiver, s) := w.receiver s
  match receiver.read s with
  | (.empty, receiver) => (some (subscribed receiver), s)
  | _ => (none, s.unsubscribe)

/-- A waiter that is polled for the first time is polled as one that has just subscribed. -/
theorem poll_idle (s : Signal) :
    idle.poll s = (subscribed s.subscribe.1).poll s.subscribe.2 := rfl

/-- A waiter goes on waiting, with its subscription as it was, if its read finds nothing. -/
theorem poll_subscribed (r : Receiver) (s : Signal) :
    (subscribed r).poll s =
      if (r.read s).1 = .empty then (some (subscribed r), s) else (none, s.unsubscribe) := by
  unfold poll receiver Receiver.read
  by_cases none : s.sent ≤ r.next
  · by_cases closed : s.handles = 0 <;> simp [none, closed]
  · by_cases more : r.next + 1 < s.sent <;> simp [none, more]

@[simp] theorem sent_poll (w : Waiter) (s : Signal) : (w.poll s).2.sent = s.sent := by
  cases w with
  | idle =>
    rw [poll_idle, poll_subscribed]
    split <;> rfl
  | subscribed r =>
    rw [poll_subscribed]
    split <;> rfl

/-- Gives a waiter up. -/
def drop (w : Waiter) (s : Signal) : Signal :=
  match w with
  | idle => s
  | subscribed _ => s.unsubscribe

@[simp] theorem sent_drop (w : Waiter) (s : Signal) : (w.drop s).sent = s.sent := by
  cases w <;> rfl

end Waiter

end Safeguard
