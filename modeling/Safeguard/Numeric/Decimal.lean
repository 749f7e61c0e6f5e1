import Safeguard.Numeric.Double

/-!
# Doubles and decimal numbers

`ofDecimal` reads a decimal number as the nearest double, and `shortest` finds the decimal number
with the fewest digits that reads back as a given double, the nearest one if there are two. Both
work on exact integers: a double stands for every real number that rounds to it, and the shortest
decimal is the first one found in that interval as the grid of decimals gets finer.
-/

namespace Safeguard

/-- The number `digits * 10 ^ exponent`. -/
structure Decimal where
  digits : Nat
  exponent : Int
  deriving DecidableEq

namespace Decimal

/-- The number of decimal digits of a natural number, 1 for 0. -/
def digitCount (n : Nat) : Nat := (Nat.toDigits 10 n).length

/-- The nearest double. Numbers beyond the range of the exponent are decided by their size alone:
0 below the least positive double's half, and infinity above the largest double. -/
def toFloat (d : Decimal) : Float :=
  let size := (digitCount d.digits : Int) + d.exponent
  if d.digits = 0 then 0.0
  else if size < -330 then 0.0
  else if 310 < size then 1.0 / 0.0
  else if d.exponent < 0 then Float.ofScientific d.digits true d.exponent.natAbs
  else Float.ofScientific d.digits false d.exponent.natAbs

/-- The exponent of the first digit of `num / den`, looked for among the places after the point. -/
def leadingExponent (num den : Nat) : Int :=
  if den ≤ num then digitCount (num / den) - 1
  else
    match (List.range 400).find? fun j => den ≤ num * Nat.pow 10 (j + 1) with
    | some j => -((j : Int) + 1)
    | none => -400

/-- The reals that round to a positive finite double: their bounds and the double itself over a
common denominator, and whether the bounds belong to them. -/
structure Rounding where
  low : Nat
  mid : Nat
  high : Nat
  den : Nat
  closed : Bool

/-- The rounding interval of a positive finite double. -/
def Rounding.ofFloat (x : Float) : Rounding :=
  let (m, e) := Double.magnitude x
  let below := if m = Nat.pow 2 52 ∧ -1074 < e then 1 else 2
  let scale := Nat.pow 2 (e - 2).toNat
  { low := (4 * m - below) * scale
    mid := 4 * m * scale
    high := (4 * m + 2) * scale
    den := Nat.pow 2 (2 - e).toNat
    closed := m % 2 == 0 }

/-- Whether `num / den` lies in a rounding interval. -/
def Rounding.holds (r : Rounding) (num den : Nat) : Bool :=
  let low := r.low * den
  let high := r.high * den
  let x := num * r.den
  if r.closed then low ≤ x && x ≤ high else low < x && x < high

/-- The multiple of `10 ^ exponent` next to the middle of a rounding interval that lies in it. -/
def Rounding.onGrid? (r : Rounding) (exponent : Int) : Option Nat :=
  let up := Nat.pow 10 exponent.toNat
  let down := Nat.pow 10 (-exponent).toNat
  let lower := r.mid * down / (r.den * up)
  let holdsLower := lower ≠ 0 && r.holds (lower * up) down
  let holdsUpper := r.holds ((lower + 1) * up) down
  let remainder := r.mid * down - lower * (r.den * up)
  if holdsLower && holdsUpper then
    if 2 * remainder ≤ r.den * up then some lower else some (lower + 1)
  else if holdsLower then some lower
  else if holdsUpper then some (lower + 1)
  else none

/-- The shortest decimal that reads back as a positive finite double; 17 digits always do. -/
def shortest (x : Float) : Decimal :=
  let r := Rounding.ofFloat x
  let leading := leadingExponent r.mid r.den
  let found := (List.range 17).findSome? fun (k : Nat) =>
    (r.onGrid? (leading - k)).map fun n => (⟨n, leading - k⟩ : Decimal)
  found.getD ⟨0, 0⟩

/-- A decimal number without an exponent, such as `0.5`, `12` or `1200`. -/
def positional (d : Decimal) : String :=
  let digits := Nat.toDigits 10 d.digits
  if 0 ≤ d.exponent then String.ofList (digits ++ List.replicate d.exponent.toNat '0')
  else
    let places := d.exponent.natAbs
    let padded := List.replicate (places + 1 - digits.length) '0' ++ digits
    let whole := padded.length - places
    String.ofList (padded.take whole ++ '.' :: padded.drop whole)

end Decimal

/-- A finite double in the fewest digits, without an exponent and without a needless point. -/
def plainFloat (x : Float) : String :=
  let sign := if x.toBits.toNat / Nat.pow 2 63 = 1 then "-" else ""
  if x == 0.0 then sign ++ "0" else sign ++ (Decimal.shortest x).positional

end Safeguard
