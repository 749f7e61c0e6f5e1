/-!
# Percent-encoded bytes

A path segment stands for bytes: a percent sign and two hexadecimal digits for the byte they
number, anything else for its own UTF-8 bytes. A percent sign that is not followed by two digits
stands for itself, and so does a plus sign.
-/

namespace Safeguard.Text

/-- The value of a hexadecimal digit. -/
def hexValue? (c : Char) : Option Nat :=
  if '0' ≤ c ∧ c ≤ '9' then some (c.toNat - '0'.toNat)
  else if 'a' ≤ c ∧ c ≤ 'f' then some (c.toNat - 'a'.toNat + 10)
  else if 'A' ≤ c ∧ c ≤ 'F' then some (c.toNat - 'A'.toNat + 10)
  else none

/-- The bytes that percent-encoded text stands for. -/
def percentDecode : List Char → List UInt8
  | '%' :: a :: b :: rest =>
    match hexValue? a, hexValue? b with
    | some x, some y => UInt8.ofNat (16 * x + y) :: percentDecode rest
    | _, _ => '%'.toUInt8 :: percentDecode (a :: b :: rest)
  | c :: rest => (String.singleton c).toUTF8.data.toList ++ percentDecode rest
  | [] => []

/-- The bytes that encode a text in UTF-8. -/
def utf8Encode (s : String) : List UInt8 := s.toUTF8.data.toList

/-- The text that bytes encode in UTF-8, if they do. -/
def utf8Decode? (bytes : List UInt8) : Option String := String.fromUTF8? ⟨bytes.toArray⟩

end Safeguard.Text
