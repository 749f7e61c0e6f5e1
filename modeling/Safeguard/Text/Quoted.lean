import Safeguard.Text.Lowercase
import Safeguard.Text.PrintTable

/-!
# Quoted text

A text between double quotes in which nothing is lost: quotes and backslashes are escaped, line
breaks and tabs have their letters, and characters without a mark of their own are written by
number.
-/

namespace Safeguard.Text

/-- Characters that quoted text writes by number. -/
def isUnprintable (c : Char) : Bool := inRanges unprintableRanges c

/-- A character as quoted text writes it. -/
def quotedChar (c : Char) : List Char :=
  if c = '"' then ['\\', '"']
  else if c = '\\' then ['\\', '\\']
  else if c = '\n' then ['\\', 'n']
  else if c = '\r' then ['\\', 'r']
  else if c = '\t' then ['\\', 't']
  else if c = '\x00' then ['\\', '0']
  else if isUnprintable c then ['\\', 'u', '\x7b'] ++ Nat.toDigits 16 c.toNat ++ ['\x7d']
  else [c]

/-- The quoted form of a text. -/
def quoted (s : String) : String :=
  String.ofList ('"' :: s.toList.flatMap quotedChar ++ ['"'])

end Safeguard.Text
