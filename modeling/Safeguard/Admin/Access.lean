import Safeguard.Admin.Request

/-!
# Access to the admin interface

If a key is set, a request to an administrative route has to present it: its first authorization is
the word `Bearer`, one blank, and the key. An authorization that cannot be read as text presents
nothing, so a key with a character beyond ASCII opens nothing.
-/

namespace Safeguard

namespace Request

/-- The key that stands in the text of an authorization. -/
def keyOf? (text : String) : Option String :=
  if "Bearer ".toList.isPrefixOf text.toList then some (String.ofList (text.toList.drop 7))
  else none

/-- The key that a request presents. -/
def presentedKey (r : Request) : Option String :=
  (r.authorizations.head?.bind HeaderValue.text?).bind keyOf?

/-- Whether a request may go on, given the key that is set. -/
def isAuthorized (key : Option String) (r : Request) : Bool :=
  match key with
  | none => true
  | some key => r.presentedKey == some key

end Request

/-- The key that counts: an empty one is none. -/
def effectiveKey (key : Option String) : Option String := key.filter fun k => !k.isEmpty

end Safeguard
