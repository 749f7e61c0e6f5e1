/-!
# Doubles and durations

Delays are computed in binary floating point and turned back into whole nanoseconds. The way back
is exact: the double is read as `m * 2 ^ e` and the nearest count of nanoseconds is taken, ties to
the even one. Powers are taken by repeated squaring, in the one order of multiplications that
fixes every bit of the result.
-/

namespace Safeguard.Double

/-- A finite double's magnitude as `m * 2 ^ e`. -/
def magnitude (x : Float) : Nat × Int :=
  let bits := x.toBits.toNat
  let fraction : Nat := bits % Nat.pow 2 52
  let exponent : Nat := bits / Nat.pow 2 52 % Nat.pow 2 11
  if exponent = 0 then (fraction, -1074) else (fraction + Nat.pow 2 52, (exponent : Int) - 1075)

/-- The quotient rounded to the nearest number, a tie to the even one. -/
def divRoundEven (num den : Nat) : Nat :=
  let quotient := num / den
  let twice := 2 * (num % den)
  if twice < den then quotient
  else if den < twice then quotient + 1
  else quotient + quotient % 2

/-- A duration in seconds. -/
def ofDuration (d : Nat) : Float :=
  (UInt64.ofNat (d / 1000000000)).toFloat +
    (UInt64.ofNat (d % 1000000000)).toFloat / 1e9

/-- The duration nearest to a number of seconds; none for a negative number, for one beyond the
longest duration, and for what is no number. -/
def toDuration? (seconds : Float) : Option Nat :=
  if seconds < 0.0 then none
  else if !(seconds < 18446744073709551616.0) then none
  else
    let (m, e) := magnitude seconds
    if e < 0 then some (divRoundEven (m * 1000000000) (Nat.pow 2 (-e).toNat))
    else some (m * Nat.pow 2 e.toNat * 1000000000)

/-- One pass of repeated squaring per binary digit of the exponent, least digit first. -/
def powerLoop : (digits : Nat) → (result base : Float) → (exponent : Nat) → Float
  | 0, result, _, _ => result
  | digits + 1, result, base, exponent =>
    let result := if exponent % 2 = 1 then result * base else result
    if exponent / 2 = 0 then result
    else powerLoop digits result (base * base) (exponent / 2)

/-- `base` to a power below `2 ^ 32`. -/
def power (base : Float) (exponent : Nat) : Float := powerLoop 32 1.0 base exponent

/-- The smaller of two numbers; the other one if one is no number. -/
def lesser (a b : Float) : Float :=
  if a.isNaN then b else if b.isNaN then a else if b < a then b else a

/-- A number, or 0 if it is not positive or no number at all. -/
def atLeastZero (x : Float) : Float := if 0.0 < x then x else 0.0

/-- A number brought into the range from -1 to 1; what is no number stays so. -/
def toUnit (x : Float) : Float :=
  if x < -1.0 then -1.0 else if 1.0 < x then 1.0 else x

end Safeguard.Double
