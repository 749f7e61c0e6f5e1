import Safeguard.Text.Percent

/-!
# Socket addresses

The texts that name a socket address: an IPv4 address and a port, or an IPv6 address in brackets
with an optional scope, and a port. Each reader takes its part from the front of a text and
returns the rest, or fails and takes nothing.
-/

namespace Safeguard.SocketAddress

/-- A reader of a part of an address: the text after the part. -/
abbrev Part := List Char → Option (List Char)

/-- The value of a digit of a radix up to 16. -/
def digit? (radix : Nat) (c : Char) : Option Nat :=
  (Text.hexValue? c).filter (· < radix)

/-- The digits at the front of a text. -/
def leadingDigits (radix : Nat) (cs : List Char) : List Char :=
  cs.takeWhile fun c => (digit? radix c).isSome

/-- The number that digits write. -/
def digitsNumber (radix : Nat) (digits : List Char) : Nat :=
  digits.foldl (fun n c => radix * n + (digit? radix c).getD 0) 0

/-- A number up to `limit`, of at most `maxDigits` digits if that is set. -/
def number (radix limit : Nat) (maxDigits : Option Nat) (leadingZeros : Bool) : Part := fun cs =>
  let digits := leadingDigits radix cs
  let fits :=
    match maxDigits with
    | some n => digits.length ≤ n
    | none => true
  if digits.isEmpty || !fits then none
  else if !leadingZeros && digits.head? = some '0' && digits.length ≠ 1 then none
  else if limit < digitsNumber radix digits then none
  else some (cs.drop digits.length)

/-- One given character. -/
def symbol (c : Char) : Part
  | [] => none
  | d :: rest => if d = c then some rest else none

/-- A part that follows a separator, unless it is the first of its kind. -/
def separated (c : Char) (first : Bool) (part : Part) : Part := fun cs =>
  if first then part cs else (symbol c cs).bind part

/-- One of the four numbers of an IPv4 address; a leading zero would make it octal. -/
def octet : Part := number 10 255 (some 3) false

/-- An IPv4 address. -/
def ipv4 : Part := fun cs => do
  let cs ← octet cs
  let cs ← separated '.' false octet cs
  let cs ← separated '.' false octet cs
  separated '.' false octet cs

/-- One of the groups of an IPv6 address. -/
def group : Part := number 16 65535 (some 4) true

/-- Groups of an IPv6 address, as many as there are but at most `room`: how many were taken,
whether the last two were written as an IPv4 address, and the text after them. -/
def groups : (room : Nat) → (first : Bool) → List Char → Nat × Bool × List Char
  | 0, _, cs => (0, false, cs)
  | room + 1, first, cs =>
    match (if room = 0 then none else separated ':' first ipv4 cs) with
    | some rest => (2, true, rest)
    | none =>
      match separated ':' first group cs with
      | some rest =>
        let (taken, embedded, rest) := groups room false rest
        (taken + 1, embedded, rest)
      | none => (0, false, cs)

/-- An IPv6 address: eight groups, or fewer around a double colon that stands for zeros. -/
def ipv6 : Part := fun cs =>
  let (taken, embedded, rest) := groups 8 true cs
  if taken = 8 then some rest
  else if embedded then none
  else do
    let rest ← symbol ':' rest
    let rest ← symbol ':' rest
    let (_, _, rest) := groups (7 - taken) true rest
    some rest

/-- A colon and a port. -/
def port : Part := fun cs => (symbol ':' cs).bind (number 10 65535 none true)

/-- A percent sign and a scope number, or nothing. -/
def scope : Part := fun cs =>
  match (symbol '%' cs).bind (number 10 4294967295 none true) with
  | some rest => some rest
  | none => some cs

/-- An IPv4 address and a port. -/
def v4 : Part := fun cs => (ipv4 cs).bind port

/-- An IPv6 address in brackets and a port. -/
def v6 : Part := fun cs => do
  let cs ← symbol '[' cs
  let cs ← ipv6 cs
  let cs ← scope cs
  let cs ← symbol ']' cs
  port cs

/-- Whether a text names a socket address. -/
def isValid (s : String) : Bool :=
  let cs := s.toList
  match v4 cs with
  | some rest => rest.isEmpty
  | none => v6 cs = some []

/-- Whether a text is a port number. -/
def isPort (s : String) : Bool := number 10 65535 none true s.toList = some []

end Safeguard.SocketAddress
