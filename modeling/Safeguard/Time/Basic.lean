/-!
# Instants, durations and timers

Instants and durations are natural numbers of nanoseconds; an instant counts from the start of
the monotonic clock. Timers go off at whole milliseconds: `due now d` is when a timer of length
`d` set at `now` goes off, the end of the wait rounded up to the next whole millisecond. Snapshots
report whole milliseconds in 64 bits, which `wholeMillis` saturates.
-/

namespace Safeguard

/-- The largest number of 64 bits. -/
abbrev maxWord64 : Nat := 18446744073709551615

/-- The largest number of 32 bits. -/
abbrev maxWord32 : Nat := 4294967295

/-- The longest duration: 64 bits of seconds, and nanoseconds below one more. -/
def longestDuration : Nat := 18446744073709551615 * 1000000000 + 999999999

/-- The sum of two durations, unless it is too long for one. -/
def durationSum? (a b : Nat) : Option Nat := if a + b ≤ longestDuration then some (a + b) else none

/-- A duration given in milliseconds. -/
def ofMillis (millis : UInt64) : Nat := millis.toNat * 1000000

/-- The whole milliseconds of a duration, at most the largest number of 64 bits. -/
def wholeMillis (d : Nat) : UInt64 := UInt64.ofNat (min (d / 1000000) 18446744073709551615)

/-- The first whole millisecond at or after an instant. -/
def ceilMilli (t : Nat) : Nat := (t + 999999) / 1000000 * 1000000

/-- When a timer of length `d` set at `now` goes off. -/
def due (now d : Nat) : Nat := ceilMilli (now + d)

@[simp] theorem toNat_wholeMillis (d : Nat) :
    (wholeMillis d).toNat = min (d / 1000000) 18446744073709551615 := by
  simp only [wholeMillis, UInt64.toNat_ofNat']
  omega

@[simp] theorem wholeMillis_ofMillis (n : UInt64) : wholeMillis (ofMillis n) = n := by
  apply UInt64.toNat.inj
  have := n.toNat_lt
  simp only [toNat_wholeMillis, ofMillis]
  omega

theorem le_ceilMilli (t : Nat) : t ≤ ceilMilli t := by
  simp only [ceilMilli]
  omega

theorem ceilMilli_lt (t : Nat) : ceilMilli t < t + 1000000 := by
  simp only [ceilMilli]
  omega

/-- A timer never goes off early. -/
theorem le_due (now d : Nat) : now + d ≤ due now d := le_ceilMilli _

/-- Between whole milliseconds nothing is rounded. -/
theorem due_of_dvd {now d : Nat} (h : 1000000 ∣ now + d) : due now d = now + d := by
  simp only [due, ceilMilli]
  omega

end Safeguard
