import Safeguard.Document.Json

/-!
# The words of TOML

Readers for what stands on a single place of a TOML file: blanks, comments and line ends, strings
of all four kinds, keys, numbers and dates. Each takes its word from the front of a text and
returns it with the rest, or fails.
-/

namespace Safeguard.Toml

/-- A reader of a word: the word and the text after it. -/
abbrev Reader (α : Type) := List Char → Option (α × List Char)

/-! ## Blanks and line ends -/

/-- Blanks within a line. -/
def isBlank (c : Char) : Bool := c = ' ' || c = '\t'

/-- The text from the next word of the line on. -/
def skipBlanks (cs : List Char) : List Char := cs.dropWhile isBlank

/-- Characters that may stand in comments and strings: tabs, and all that are no controls. -/
def isPlain (c : Char) : Bool := c = '\t' || (' ' ≤ c && c ≠ '\x7f')

/-- The text after a line break. -/
def lineBreak? : List Char → Option (List Char)
  | '\n' :: rest => some rest
  | '\r' :: '\n' :: rest => some rest
  | _ => none

/-- The text after a comment, if there is one. -/
def skipComment : List Char → List Char
  | '#' :: rest => rest.dropWhile isPlain
  | cs => cs

/-- The text after the end of a line: blanks, perhaps a comment, and a break or the end. -/
def lineEnd? (cs : List Char) : Option (List Char) :=
  match skipComment (skipBlanks cs) with
  | [] => some []
  | rest => lineBreak? rest

/-- The text from the first character on that is neither blank nor part of a line break. -/
def skipEmptyLines : List Char → List Char
  | ' ' :: rest => skipEmptyLines rest
  | '\t' :: rest => skipEmptyLines rest
  | '\n' :: rest => skipEmptyLines rest
  | '\r' :: '\n' :: rest => skipEmptyLines rest
  | cs => cs

/-- The text from the next word on, past line ends; a comment has to end with its line. -/
def skipLines : (fuel : Nat) → List Char → Option (List Char)
  | 0, _ => none
  | fuel + 1, cs =>
    match skipEmptyLines cs with
    | '#' :: rest => (lineBreak? (rest.dropWhile isPlain)).bind (skipLines fuel)
    | rest => some rest

/-! ## Strings -/

/-- The character of a code point given by so many hexadecimal digits. -/
def readCodePoint (digits : Nat) : Reader Char := fun cs =>
  match (cs.take digits).mapM Text.hexValue? with
  | none => none
  | some values =>
    let n := values.foldl (fun n v => 16 * n + v) 0
    if values.length ≠ digits || 0x10FFFF < n || (0xD800 ≤ n && n < 0xE000) then none
    else some (Char.ofNat n, cs.drop digits)

/-- The character that an escape stands for, given what follows the backslash. -/
def readEscape : Reader Char
  | 'b' :: rest => some ('\x08', rest)
  | 't' :: rest => some ('\t', rest)
  | 'n' :: rest => some ('\n', rest)
  | 'f' :: rest => some ('\x0c', rest)
  | 'r' :: rest => some ('\r', rest)
  | '"' :: rest => some ('"', rest)
  | '\\' :: rest => some ('\\', rest)
  | 'u' :: rest => readCodePoint 4 rest
  | 'U' :: rest => readCodePoint 8 rest
  | _ => none

/-- The rest of a string in double quotes, after `read` (last character first). -/
def readBasic : (fuel : Nat) → (read : List Char) → Reader String
  | 0, _, _ => none
  | fuel + 1, read, cs =>
    match cs with
    | '"' :: rest => some (String.ofList read.reverse, rest)
    | '\\' :: rest =>
      match readEscape rest with
      | some (c, rest) => readBasic fuel (c :: read) rest
      | none => none
    | c :: rest => if isPlain c then readBasic fuel (c :: read) rest else none
    | [] => none

/-- The rest of a string in single quotes. -/
def readLiteral : Reader String := fun cs =>
  let body := cs.takeWhile fun c => isPlain c && c ≠ '\''
  match cs.drop body.length with
  | '\'' :: rest => some (String.ofList body, rest)
  | _ => none

/-- What a run of quotes means within a string of several lines: quotes of the string's own, or
its end, which up to two such quotes may precede. -/
def quoteRun (quote : Char) (cs : List Char) : Nat × Bool × List Char :=
  let run := (cs.takeWhile (· = quote)).length
  if run < 3 then (run, false, cs.drop run)
  else (min (run - 3) 2, true, cs.drop (3 + min (run - 3) 2))

/-- The rest of a string of several lines in triple quotes, after `read` (last character first).
In double quotes backslashes escape, and one at the end of a line joins it with the next word. -/
def readLong (quote : Char) : (fuel : Nat) → (read : List Char) → Reader String
  | 0, _, _ => none
  | fuel + 1, read, cs =>
    match cs with
    | [] => none
    | '\n' :: rest => readLong quote fuel ('\n' :: read) rest
    | '\r' :: '\n' :: rest => readLong quote fuel ('\n' :: read) rest
    | c :: rest =>
      if c = quote then
        let (own, ends, rest) := quoteRun quote cs
        let read := List.replicate own quote ++ read
        if ends then some (String.ofList read.reverse, rest) else readLong quote fuel read rest
      else if quote = '"' && c = '\\' then
        match lineBreak? (skipBlanks rest) with
        | some rest => readLong quote fuel read (skipEmptyLines rest)
        | none =>
          match readEscape rest with
          | some (c, rest) => readLong quote fuel (c :: read) rest
          | none => none
      else if isPlain c then readLong quote fuel (c :: read) rest
      else none

/-- The text without the line break that directly follows opening quotes. -/
def skipFirstBreak (cs : List Char) : List Char := (lineBreak? cs).getD cs

/-- A string of any kind. -/
def readString : Reader String
  | '"' :: '"' :: '"' :: rest => readLong '"' (rest.length + 1) [] (skipFirstBreak rest)
  | '\'' :: '\'' :: '\'' :: rest => readLong '\'' (rest.length + 1) [] (skipFirstBreak rest)
  | '"' :: rest => readBasic (rest.length + 1) [] rest
  | '\'' :: rest => readLiteral rest
  | _ => none

/-! ## Keys -/

/-- Characters of keys without quotes. -/
def isKeyChar (c : Char) : Bool := c.isAlphanum || c = '_' || c = '-'

/-- One part of a key. -/
def readSimpleKey : Reader String
  | '"' :: rest => readBasic (rest.length + 1) [] rest
  | '\'' :: rest => readLiteral rest
  | cs =>
    let word := cs.takeWhile isKeyChar
    if word.isEmpty then none else some (String.ofList word, cs.drop word.length)

/-- The parts of a dotted key, with blanks around them. -/
def readKeyParts : (fuel : Nat) → Reader (List String)
  | 0, _ => none
  | fuel + 1, cs =>
    match readSimpleKey (skipBlanks cs) with
    | none => none
    | some (part, rest) =>
      match skipBlanks rest with
      | '.' :: rest =>
        match readKeyParts fuel rest with
        | some (parts, rest) => some (part :: parts, rest)
        | none => none
      | rest => some ([part], rest)

/-- How deep arrays and tables may be nested, and how many parts a key may have: fewer than
this. -/
def depthLimit : Nat := 80

/-- A key, dotted or not. -/
def readKey : Reader (List String) := readKeyParts (depthLimit - 1)

/-! ## Numbers -/

/-- Whether the underscores of a word that starts with a digit stand between two digits. -/
def underscoresBetween : List Char → Bool
  | [] => true
  | ['_'] => false
  | '_' :: '_' :: _ => false
  | _ :: rest => underscoresBetween rest

/-- Digits in which underscores stand between two digits only; the underscores are dropped. -/
def readDigitRun (isDigit : Char → Bool) : Reader (List Char) := fun cs =>
  let word := cs.takeWhile fun c => isDigit c || c = '_'
  match word with
  | [] => none
  | c :: _ =>
    if isDigit c && underscoresBetween word then
      some (word.filter (· ≠ '_'), cs.drop word.length)
    else none

/-- An integer in range: 64 bits and a sign. -/
def integer? (n : Int) : Option Document :=
  if -9223372036854775808 ≤ n ∧ n ≤ 9223372036854775807 then some (.int n) else none

/-- An integer of a radix other than ten, after its mark. -/
def readRadix (radix : Nat) : Reader Document := fun cs =>
  match readDigitRun (fun c => ((Text.hexValue? c).filter (· < radix)).isSome) cs with
  | none => none
  | some (digits, rest) =>
    let n := digits.foldl (fun n c => radix * n + (Text.hexValue? c).getD 0) 0
    (integer? n).map fun d => (d, rest)

/-- The whole digits of a decimal number; a zero in front of others is refused later on, as what
follows it. -/
def readWhole : Reader (List Char)
  | '0' :: rest => some (['0'], rest)
  | cs => readDigitRun Char.isDigit cs

/-- A double, unless it is too large for one. -/
def float? (negative : Bool) (whole fraction : List Char) (exponent : Int) : Option Document :=
  let x := Json.floatOfParts false whole fraction exponent
  if x.isFinite || negative then some (.float (if negative then -x else x)) else none

/-- The digits of a fraction, if one is written. -/
def readFraction : Reader (Option (List Char))
  | '.' :: rest => (readDigitRun Char.isDigit rest).map fun (digits, rest) => (some digits, rest)
  | cs => some (none, cs)

/-- An exponent, if one is written. -/
def readExponent : Reader (Option Int) := fun cs =>
  if cs.head? = some 'e' || cs.head? = some 'E' then
    let (down, rest) := Json.readSign cs.tail
    (readDigitRun Char.isDigit rest).map fun (digits, rest) =>
      let n : Int := Json.digitsValue digits
      (some (if down then -n else n), rest)
  else some (none, cs)

/-- A number written in decimal digits, without its sign. -/
def readDecimal (negative : Bool) : Reader Document := fun cs =>
  match readWhole cs with
  | none => none
  | some (whole, rest) =>
    match readFraction rest with
    | none => none
    | some (fraction, rest) =>
      match readExponent rest with
      | none => none
      | some (none, rest) =>
        if fraction.isNone then
          let n : Int := Json.digitsValue whole
          (integer? (if negative then -n else n)).map fun d => (d, rest)
        else (float? negative whole (fraction.getD []) 0).map fun d => (d, rest)
      | some (some exponent, rest) =>
        (float? negative whole (fraction.getD []) exponent).map fun d => (d, rest)

/-- A number, or one of the words for what is no finite number. -/
def readNumber : Reader Document
  | '0' :: 'x' :: rest => readRadix 16 rest
  | '0' :: 'o' :: rest => readRadix 8 rest
  | '0' :: 'b' :: rest => readRadix 2 rest
  | cs =>
    let (negative, rest) := Json.readSign cs
    match rest with
    | 'i' :: 'n' :: 'f' :: rest => some (.float (if negative then -1.0 / 0.0 else 1.0 / 0.0), rest)
    | 'n' :: 'a' :: 'n' :: rest => some (.float (0.0 / 0.0), rest)
    | rest => readDecimal negative rest

/-! ## Dates and times -/

/-- A number of so many digits in a range. -/
def readFixed (digits low high : Nat) : Reader Nat := fun cs =>
  let word := cs.take digits
  let n := Json.digitsValue word
  if word.length = digits && word.all Char.isDigit && low ≤ n && n ≤ high then
    some (n, cs.drop digits)
  else none

/-- The text after a given character. -/
def after? (c : Char) : List Char → Option (List Char)
  | d :: rest => if d = c then some rest else none
  | [] => none

/-- The number of days in a month. -/
def daysIn (year month : Nat) : Nat :=
  if month = 2 then
    if year % 4 = 0 ∧ (year % 100 ≠ 0 ∨ year % 400 = 0) then 29 else 28
  else if month = 4 ∨ month = 6 ∨ month = 9 ∨ month = 11 then 30
  else 31

/-- The text after a date. -/
def date? (cs : List Char) : Option (List Char) := do
  let (year, cs) ← readFixed 4 0 9999 cs
  let cs ← after? '-' cs
  let (month, cs) ← readFixed 2 1 12 cs
  let cs ← after? '-' cs
  let (_, cs) ← readFixed 2 1 (daysIn year month) cs
  some cs

/-- The text after a time of day. -/
def time? (cs : List Char) : Option (List Char) := do
  let (_, cs) ← readFixed 2 0 23 cs
  let cs ← after? ':' cs
  let (_, cs) ← readFixed 2 0 59 cs
  let cs ← after? ':' cs
  let (_, cs) ← readFixed 2 0 60 cs
  match cs with
  | '.' :: rest =>
    let rest' := rest.dropWhile Char.isDigit
    if rest'.length < rest.length then some rest' else some cs
  | cs => some cs

/-- The text after the offset of a time zone. -/
def offset? (cs : List Char) : Option (List Char) :=
  match cs with
  | c :: rest =>
    if c = 'Z' || c = 'z' then some rest
    else if c = '+' || c = '-' then do
      let (_, cs) ← readFixed 2 0 23 rest
      let cs ← after? ':' cs
      let (_, cs) ← readFixed 2 0 59 cs
      some cs
    else none
  | [] => none

/-- The text after a date, a time, or both with or without an offset. -/
def dateTime? (cs : List Char) : Option (List Char) :=
  match date? cs with
  | none => time? cs
  | some rest =>
    match rest with
    | c :: rest' =>
      if c = 'T' || c = 't' || c = ' ' then
        match time? rest' with
        | some rest' => some ((offset? rest').getD rest')
        | none => some rest
      else some rest
    | [] => some rest

/-- The one field of the table that a date or a time is read as. -/
def dateField : String := "date"

/-- A date or a time, as a table with that one field, which no record has. -/
def readDateTime : Reader Document := fun cs =>
  (dateTime? cs).map fun rest =>
    let word := cs.take (cs.length - rest.length)
    (.table [(dateField, .text (String.ofList word))], rest)

/-- A value that is neither an array nor a table. -/
def readScalar : Reader Document
  | 't' :: 'r' :: 'u' :: 'e' :: rest => some (.bool true, rest)
  | 'f' :: 'a' :: 'l' :: 's' :: 'e' :: rest => some (.bool false, rest)
  | cs =>
    match readString cs with
    | some (s, rest) => some (.text s, rest)
    | none =>
      match readDateTime cs with
      | some r => some r
      | none => readNumber cs

end Safeguard.Toml
