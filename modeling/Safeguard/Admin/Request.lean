import Safeguard.Net.RequestTarget
import Safeguard.Text.Percent

/-!
# Requests

A `Request` is what the admin interface sees of one: the method, the path and the authorization
headers. The value of a header is made of bytes, which need not be text. A request can only be made
if its method, its target and its authorization are well formed.
-/

namespace Safeguard

/-- The value of a header, byte by byte. -/
abbrev HeaderValue := List UInt8

namespace HeaderValue

/-- Bytes of header values: none that controls, except the tab. -/
def isHeaderByte (b : UInt8) : Bool := b = 0x09 || (0x20 ≤ b && b ≠ 0x7F)

/-- Whether bytes can be the value of a header. -/
def isWellFormed (value : HeaderValue) : Bool := value.all isHeaderByte

/-- Bytes that can be read as text: visible ASCII, blanks and tabs. -/
def isTextByte (b : UInt8) : Bool := b = 0x09 || (0x20 ≤ b && b < 0x7F)

/-- The text of a value, if it can be read as text. -/
def text? (value : HeaderValue) : Option String :=
  if value.all isTextByte then some (String.ofList (value.map fun b => Char.ofNat b.toNat))
  else none

end HeaderValue

/-- A request to the admin interface. -/
structure Request where
  method : String
  path : String
  /-- The values of the authorization headers, in order. -/
  authorizations : List HeaderValue
  deriving DecidableEq

namespace Request

/-- Characters of methods. -/
def isMethodChar (c : Char) : Bool :=
  c.isAlphanum || "!#$%&'*+-.^_\x60|~".toList.contains c

/-- Whether a text can be a method. -/
def isMethod (s : String) : Bool := !s.isEmpty && s.toList.all isMethodChar

/-- The request with a method, a target and at most one authorization, if it can be made. -/
def make? (method target : String) (authorization : Option String) : Option Request :=
  match RequestTarget.path? target with
  | none => none
  | some path =>
    let authorizations := (authorization.map Text.utf8Encode).toList
    if isMethod method && authorizations.all HeaderValue.isWellFormed then
      some { method, path, authorizations }
    else none

end Request

end Safeguard
