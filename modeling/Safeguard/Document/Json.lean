import Safeguard.Document.Basic
import Safeguard.Numeric.Decimal
import Safeguard.Text.Percent
import Safeguard.Time.Basic

/-!
# JSON text

`Document.ofJson?` reads JSON text and `Document.toJson` writes it. A whole number without a
fraction or an exponent is an integer if 64 bits hold it, and every other number is the nearest
double; the last of several fields of one name counts. Doubles are written with an exponent, so
that they read back as doubles.
-/

namespace Safeguard.Json

/-! ## Reading -/

/-- Blanks between tokens. -/
def isBlank (c : Char) : Bool := c = ' ' || c = '\t' || c = '\n' || c = '\r'

/-- The text from the next token on. -/
def skipBlanks (cs : List Char) : List Char := cs.dropWhile isBlank

/-- The value of decimal digits. -/
def digitsValue (digits : List Char) : Nat :=
  digits.foldl (fun n c => 10 * n + (c.toNat - '0'.toNat)) 0

/-- The value of four hexadecimal digits and the rest. -/
def readHex4 : List Char → Option (Nat × List Char)
  | a :: b :: c :: d :: rest =>
    match Text.hexValue? a, Text.hexValue? b, Text.hexValue? c, Text.hexValue? d with
    | some a, some b, some c, some d => some (((a * 16 + b) * 16 + c) * 16 + d, rest)
    | _, _, _, _ => none
  | _ => none

/-- The character that a numbered escape stands for, given what follows the letter `u`: one unit,
or two that make a pair. -/
def readUnicodeEscape (cs : List Char) : Option (Char × List Char) :=
  match readHex4 cs with
  | none => none
  | some (high, rest) =>
    if 0xD800 ≤ high && high < 0xDC00 then
      match rest with
      | '\\' :: 'u' :: rest =>
        match readHex4 rest with
        | some (low, rest) =>
          if 0xDC00 ≤ low && low < 0xE000 then
            some (Char.ofNat (0x10000 + (high - 0xD800) * 0x400 + (low - 0xDC00)), rest)
          else none
        | none => none
      | _ => none
    else if 0xDC00 ≤ high && high < 0xE000 then none
    else some (Char.ofNat high, rest)

/-- The character that an escape stands for, given what follows the backslash. -/
def readEscape : List Char → Option (Char × List Char)
  | '"' :: rest => some ('"', rest)
  | '\\' :: rest => some ('\\', rest)
  | '/' :: rest => some ('/', rest)
  | 'b' :: rest => some ('\x08', rest)
  | 'f' :: rest => some ('\x0c', rest)
  | 'n' :: rest => some ('\n', rest)
  | 'r' :: rest => some ('\r', rest)
  | 't' :: rest => some ('\t', rest)
  | 'u' :: rest => readUnicodeEscape rest
  | _ => none

/-- The text up to the closing quote, after `read` (last character first). -/
def readText : (fuel : Nat) → (read : List Char) → List Char → Option (String × List Char)
  | 0, _, _ => none
  | fuel + 1, read, cs =>
    match cs with
    | '"' :: rest => some (String.ofList read.reverse, rest)
    | '\\' :: rest =>
      match readEscape rest with
      | some (c, rest) => readText fuel (c :: read) rest
      | none => none
    | c :: rest => if c < ' ' then none else readText fuel (c :: read) rest
    | [] => none

/-- The digits at the start of a text, and the rest. -/
def readDigits (cs : List Char) : List Char × List Char := cs.span Char.isDigit

/-- A sign and its absence: whether a minus was read. -/
def readSign : List Char → Bool × List Char
  | '-' :: rest => (true, rest)
  | '+' :: rest => (false, rest)
  | cs => (false, cs)

/-- The exponent of a number, if one is written. -/
def readExponent (cs : List Char) : Option (Option Int × List Char) :=
  match cs with
  | c :: rest =>
    if c = 'e' || c = 'E' then
      let (negative, rest) := readSign rest
      let (digits, rest) := readDigits rest
      if digits.isEmpty then none
      else
        let n : Int := digitsValue digits
        some (some (if negative then -n else n), rest)
    else some (none, cs)
  | [] => some (none, [])

/-- The fraction of a number, if one is written. -/
def readFraction : List Char → Option (Option (List Char) × List Char)
  | '.' :: rest =>
    let (digits, rest) := readDigits rest
    if digits.isEmpty then none else some (some digits, rest)
  | cs => some (none, cs)

/-- The double next to a decimal number given by its parts. -/
def floatOfParts (negative : Bool) (whole fraction : List Char) (exponent : Int) : Float :=
  let x := (⟨digitsValue (whole ++ fraction), exponent - fraction.length⟩ : Decimal).toFloat
  if negative then -x else x

/-- A whole number: an integer if 64 bits hold it. -/
def wholeNumber (negative : Bool) (digits : List Char) : Document :=
  let n := digitsValue digits
  if negative then
    if 0 < n && n ≤ 9223372036854775808 then .int (-(n : Int))
    else .float (floatOfParts true digits [] 0)
  else if n ≤ maxWord64 then .int n
  else .float (floatOfParts false digits [] 0)

/-- A number. -/
def readNumber (cs : List Char) : Option (Document × List Char) :=
  let negative := cs.head? = some '-'
  let (whole, rest) := readDigits (if negative then cs.tail else cs)
  if whole.isEmpty || (whole.length ≠ 1 && whole.head? = some '0') then none
  else
    match readFraction rest with
    | none => none
    | some (fraction, rest) =>
      match readExponent rest with
      | none => none
      | some (exponent, rest) =>
        match fraction, exponent with
        | none, none => some (wholeNumber negative whole, rest)
        | _, _ =>
          some (.float (floatOfParts negative whole (fraction.getD []) (exponent.getD 0)), rest)

mutual

/-- A value. -/
def readValue : (fuel : Nat) → List Char → Option (Document × List Char)
  | 0, _ => none
  | fuel + 1, cs =>
    match skipBlanks cs with
    | 'n' :: 'u' :: 'l' :: 'l' :: rest => some (.null, rest)
    | 't' :: 'r' :: 'u' :: 'e' :: rest => some (.bool true, rest)
    | 'f' :: 'a' :: 'l' :: 's' :: 'e' :: rest => some (.bool false, rest)
    | '"' :: rest =>
      match readText (rest.length + 1) [] rest with
      | some (s, rest) => some (.text s, rest)
      | none => none
    | '[' :: rest =>
      match skipBlanks rest with
      | ']' :: rest => some (.list [], rest)
      | rest =>
        match readItems fuel [] rest with
        | some (items, rest) => some (.list items, rest)
        | none => none
    | '\x7b' :: rest =>
      match skipBlanks rest with
      | '\x7d' :: rest => some (.table [], rest)
      | rest =>
        match readFields fuel [] rest with
        | some (fields, rest) => some (.table fields, rest)
        | none => none
    | cs => readNumber cs

/-- The items of a list up to its end, after `read` (last item first). -/
def readItems : (fuel : Nat) → (read : List Document) → List Char →
    Option (List Document × List Char)
  | 0, _, _ => none
  | fuel + 1, read, cs =>
    match readValue fuel cs with
    | none => none
    | some (item, rest) =>
      match skipBlanks rest with
      | ',' :: rest => readItems fuel (item :: read) rest
      | ']' :: rest => some ((item :: read).reverse, rest)
      | _ => none

/-- The fields of a table up to its end, added to `read`. -/
def readFields : (fuel : Nat) → (read : List (String × Document)) → List Char →
    Option (List (String × Document) × List Char)
  | 0, _, _ => none
  | fuel + 1, read, cs =>
    match skipBlanks cs with
    | '"' :: rest =>
      match readText (rest.length + 1) [] rest with
      | none => none
      | some (name, rest) =>
        match skipBlanks rest with
        | ':' :: rest =>
          match readValue fuel rest with
          | none => none
          | some (value, rest) =>
            let fields := Document.setField name value read
            match skipBlanks rest with
            | ',' :: rest => readFields fuel fields rest
            | '\x7d' :: rest => some (fields, rest)
            | _ => none
        | _ => none
    | _ => none

end

/-! ## Writing -/

/-- A number of four hexadecimal digits. -/
def hex4 (n : Nat) : List Char :=
  let digits := Nat.toDigits 16 n
  List.replicate (4 - digits.length) '0' ++ digits

/-- A character inside a string. -/
def writtenChar (c : Char) : List Char :=
  if c = '"' then ['\\', '"']
  else if c = '\\' then ['\\', '\\']
  else if c < ' ' then ['\\', 'u'] ++ hex4 c.toNat
  else [c]

/-- A string. -/
def writtenText (s : String) : String :=
  String.ofList ('"' :: s.toList.flatMap writtenChar ++ ['"'])

/-- A double: its shortest digits and their exponent. What is no number is written as null. -/
def writtenFloat (x : Float) : String :=
  if x.isFinite then
    let sign := if x.toBits.toNat / Nat.pow 2 63 = 1 then "-" else ""
    if x == 0.0 then sign ++ "0e0"
    else
      let d := Decimal.shortest x
      sign ++ toString d.digits ++ "e" ++ toString d.exponent
  else "null"

mutual

/-- The JSON text of a document. -/
def written : Document → String
  | .null => "null"
  | .bool true => "true"
  | .bool false => "false"
  | .int n => toString n
  | .float x => writtenFloat x
  | .text s => writtenText s
  | .list items => "[" ++ ",".intercalate (writtenItems items) ++ "]"
  | .table fields => "\x7b" ++ ",".intercalate (writtenFields fields) ++ "\x7d"

/-- The texts of the items of a list. -/
def writtenItems : List Document → List String
  | [] => []
  | item :: rest => written item :: writtenItems rest

/-- The texts of the fields of a table. -/
def writtenFields : List (String × Document) → List String
  | [] => []
  | (name, value) :: rest => (writtenText name ++ ":" ++ written value) :: writtenFields rest

end

end Safeguard.Json

namespace Safeguard.Document

/-- The document that JSON text holds, if it holds one and nothing after it. -/
def ofJson? (s : String) : Option Document :=
  let cs := s.toList
  match Json.readValue (2 * cs.length + 2) cs with
  | some (d, rest) => if (Json.skipBlanks rest).isEmpty then some d else none
  | none => none

/-- The JSON text of a document. -/
def toJson (d : Document) : String := Json.written d

end Safeguard.Document
