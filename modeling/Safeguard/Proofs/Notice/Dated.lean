import Safeguard.Operation.Run

/-!
# Dated notices

What the events among dated notices tell, and when: `Notice.told f` picks from the events what `f`
reads off them and keeps the instant of each.
-/

namespace Safeguard

/-- The details of a retry that an event tells of. -/
def Event.retry? : Event → Option (Nat × Nat × String)
  | retryScheduled attempt delay error => some (attempt, delay, error)
  | _ => none

namespace Notice

variable {β : Type} (f : Event → Option β)

/-- What the events among dated notices tell, and when. -/
def told (notices : List (Nat × Notice)) : List (Nat × β) :=
  notices.filterMap fun n => (n.2.event?.bind f).map fun detail => (n.1, detail)

theorem told_append (a b : List (Nat × Notice)) : told f (a ++ b) = told f a ++ told f b :=
  List.filterMap_append

theorem told_isPrefix {a b : List (Nat × Notice)} (h : a <+: b) : told f a <+: told f b :=
  h.filterMap _

theorem told_atInstant (t : Nat) (notices : List Notice) :
    told f (atInstant t notices) =
      ((events notices).filterMap f).map fun detail => (t, detail) := by
  simp only [told, atInstant, events, List.filterMap_map, List.map_filterMap,
    List.filterMap_filterMap]
  rfl

end Notice

end Safeguard
