/-!
# Durations in messages

A duration in a message is a decimal number of the largest unit that it reaches: seconds,
milliseconds, microseconds or nanoseconds. No digit is dropped but trailing zeros of the
fraction.
-/

namespace Safeguard

/-- The fraction `part` of `10 ^ places`, as decimal digits after a point; nothing if it is 0. -/
def decimalFraction (part places : Nat) : List Char :=
  let digits := Nat.toDigits 10 part
  let padded := List.replicate (places - digits.length) '0' ++ digits
  let kept := (padded.reverse.dropWhile (· == '0')).reverse
  if kept.isEmpty then [] else '.' :: kept

/-- A duration as messages show it, such as `1.5s`, `50ms` or `7ns`. -/
def durationText (d : Nat) : String :=
  let scaled (unit places : Nat) : String :=
    String.ofList (Nat.toDigits 10 (d / unit) ++ decimalFraction (d % unit) places)
  if 1000000000 ≤ d then scaled 1000000000 9 ++ "s"
  else if 1000000 ≤ d then scaled 1000000 6 ++ "ms"
  else if 1000 ≤ d then scaled 1000 3 ++ "µs"
  else scaled 1 0 ++ "ns"

end Safeguard
