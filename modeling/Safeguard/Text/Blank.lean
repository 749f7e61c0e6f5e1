/-!
# White space

The characters of the Unicode property White_Space, and texts that hold nothing else.
-/

namespace Safeguard.Text

/-- White space: the ASCII blanks and line breaks, and the spaces and separators beyond. -/
def isBlank (c : Char) : Bool :=
  let n := c.toNat
  (0x09 ≤ n && n ≤ 0x0D) || n == 0x20 || n == 0x85 || n == 0xA0 || n == 0x1680 ||
    (0x2000 ≤ n && n ≤ 0x200A) || n == 0x2028 || n == 0x2029 || n == 0x202F || n == 0x205F ||
    n == 0x3000

/-- Whether a text is empty or white space throughout. -/
def isBlankText (s : String) : Bool := s.toList.all isBlank

end Safeguard.Text
