/-!
# Request targets

The target of a request is a path with an optional query, the star of a request for the whole
server, a bare authority, or an absolute address with a scheme. `RequestTarget.path?` gives the
path of a target that is well formed: the query is left out and so is what follows a number sign.
Characters beyond ASCII may stand in paths and queries but not in schemes and authorities.
-/

namespace Safeguard.RequestTarget

/-! ## Characters -/

/-- Letters and digits. -/
def isWordChar (c : Char) : Bool := c.isAlpha || c.isDigit

/-- Characters of schemes. -/
def isSchemeChar (c : Char) : Bool :=
  isWordChar c || c = '+' || c = '-' || c = '.' || c = '~'

/-- Characters of authorities, percent signs aside. -/
def isAuthorityChar (c : Char) : Bool :=
  isWordChar c || "!$&'()*+,-.:;=@[]_~".toList.contains c

/-- Where an authority ends. -/
def endsAuthority (c : Char) : Bool := c = '/' || c = '?' || c = '#'

/-- Characters of paths. -/
def isPathChar (c : Char) : Bool :=
  let n := c.toNat
  n = 0x21 || n = 0x22 || (0x24 ≤ n && n ≤ 0x3B) || n = 0x3D || (0x40 ≤ n && n ≤ 0x5F) ||
    (0x61 ≤ n && n ≠ 0x7F)

/-- Characters of queries. -/
def isQueryChar (c : Char) : Bool :=
  let n := c.toNat
  n = 0x21 || (0x24 ≤ n && n ≤ 0x3B) || n = 0x3D || (0x3F ≤ n && n ≠ 0x7F)

/-! ## Parts -/

/-- What an authority holds so far. -/
structure AuthorityScan where
  /-- The colons since the last at sign or closing bracket. -/
  colons : Nat := 0
  openBracket : Bool := false
  closeBracket : Bool := false
  /-- Whether there is a percent sign after the last at sign or closing bracket. -/
  percent : Bool := false
  endsInAt : Bool := false

namespace AuthorityScan

/-- Takes one character. -/
def push (s : AuthorityScan) (c : Char) : Option AuthorityScan :=
  let s := { s with endsInAt := false }
  if c = ':' then if 8 ≤ s.colons then none else some { s with colons := s.colons + 1 }
  else if c = '[' then
    if s.percent || s.openBracket then none else some { s with openBracket := true }
  else if c = ']' then
    if !s.openBracket || s.closeBracket then none
    else some { s with closeBracket := true, colons := 0, percent := false }
  else if c = '@' then some { s with colons := 0, percent := false, endsInAt := true }
  else if c = '%' then some { s with percent := true }
  else if isAuthorityChar c then some s
  else none

/-- Whether an authority may end here. -/
def isComplete (s : AuthorityScan) : Bool :=
  s.openBracket == s.closeBracket && s.colons ≤ 1 && !s.endsInAt && !s.percent

end AuthorityScan

/-- Whether characters make an authority. -/
def isAuthority (cs : List Char) : Bool :=
  match cs.foldlM AuthorityScan.push {} with
  | some s => s.isComplete
  | none => false

/-- The path and the query of a target; none if a character is not allowed. -/
def pathOf? (cs : List Char) : Option String :=
  let path := cs.takeWhile fun c => c ≠ '?' && c ≠ '#'
  let queryFits :=
    match cs.drop path.length with
    | '?' :: rest => (rest.takeWhile (· ≠ '#')).all isQueryChar
    | _ => true
  if path.all isPathChar && queryFits then
    some (if path.isEmpty then "/" else String.ofList path)
  else none

/-- What follows the scheme of an absolute address, if there is one: the scheme and the rest. -/
def scheme? (cs : List Char) : Option (List Char × List Char) :=
  let scheme := cs.takeWhile isSchemeChar
  match cs.drop scheme.length with
  | ':' :: '/' :: '/' :: rest => some (scheme, rest)
  | _ => none

/-- The longest scheme. -/
def longestScheme : Nat := 64

/-- The path of an absolute address, or of a bare authority, which has an empty one. -/
def absolutePath? (cs : List Char) : Option String :=
  match scheme? cs with
  | some (scheme, rest) =>
    let authority := rest.takeWhile fun c => !endsAuthority c
    if longestScheme < scheme.length || authority.isEmpty || !isAuthority authority then none
    else pathOf? (rest.drop authority.length)
  | none => if isAuthority cs then some "" else none

/-- The longest target, in bytes. -/
def longestTarget : Nat := 65534

/-- The path of a target, if it is well formed. -/
def path? (target : String) : Option String :=
  if longestTarget < target.utf8ByteSize then none
  else
    match target.toList with
    | [] => none
    | ['*'] => some "*"
    | '/' :: rest => pathOf? ('/' :: rest)
    | cs => absolutePath? cs

end Safeguard.RequestTarget
