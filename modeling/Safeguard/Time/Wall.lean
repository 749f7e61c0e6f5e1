import Safeguard.Time.Basic

/-!
# Wall-clock time

A snapshot that leaves the process is dated in milliseconds since the Unix epoch. An `Anchor`
pairs one instant of the monotonic clock with the wall-clock time it was taken at, and every
instant is dated relative to that pair, so that an instant keeps its date while the clocks move
on. A wall-clock time is an integer of nanoseconds since the epoch, whose seconds fit in 64 signed
bits.
-/

namespace Safeguard

/-- Whether 64 signed bits hold the seconds of a wall-clock time. -/
abbrev InWallRange (t : Int) : Prop :=
  -9223372036854775808 * 1000000000 ≤ t ∧ t < 9223372036854775808 * 1000000000

/-- The wall-clock time `offset` nanoseconds after `t`, if the clock can show it. -/
def wallShift? (t offset : Int) : Option Int :=
  if InWallRange (t + offset) then some (t + offset) else none

/-- A wall-clock time in milliseconds since the epoch, and 0 before it. -/
def unixMillis (t : Int) : UInt64 := wholeMillis t.toNat

/-- The two clocks of a process: the monotonic one, and what the wall clock showed when that one
was started. -/
structure Clock where
  wallStart : Int
  now : Nat := 0

namespace Clock

/-- What the wall clock shows. -/
def wall (c : Clock) : Int := c.wallStart + c.now

/-- What the wall clock shows, in milliseconds since the epoch. -/
def unixMillis (c : Clock) : UInt64 := Safeguard.unixMillis c.wall

/-- The clock a while later. -/
def advance (c : Clock) (d : Nat) : Clock := { c with now := c.now + d }

/-- The clock at an instant, or as it is if that has passed. -/
def waitUntil (c : Clock) (t : Nat) : Clock := { c with now := max c.now t }

end Clock

/-- An instant and the wall-clock time it was taken at. -/
structure Anchor where
  instant : Nat
  wall : Int
  deriving DecidableEq

namespace Anchor

/-- An anchor taken now. -/
def ofClock (c : Clock) : Anchor := ⟨c.now, c.wall⟩

/-- The date of the time `offset` nanoseconds after the anchor; 0 for a time that the wall clock
cannot show. -/
def unixMillisAt (a : Anchor) (offset : Int) : UInt64 :=
  match wallShift? a.wall offset with
  | some t => Safeguard.unixMillis t
  | none => 0

/-- The date of an instant. -/
def unixMillis (a : Anchor) (t : Nat) : UInt64 := a.unixMillisAt ((t : Int) - a.instant)

end Anchor

end Safeguard
