import Safeguard.Toml.Lexical
import Safeguard.Toml.Table

/-!
# Reading TOML

`Document.ofToml?` reads a TOML file: values with their arrays and inline tables, and lines that
are headers of tables, keys with values, or neither. A file that breaks a rule anywhere is no
document at all.
-/

namespace Safeguard.Toml

/-! ## Values -/

mutual

/-- A value within so many arrays and inline tables. -/
def readValue : (fuel : Nat) → (depth : Nat) → Reader Document
  | 0, _, _ => none
  | fuel + 1, depth, cs =>
    match cs with
    | '[' :: rest =>
      if depth + 1 < depthLimit then
        match skipLines (rest.length + 1) rest with
        | none => none
        | some (']' :: rest) => some (.list [], rest)
        | some rest =>
          match readItems fuel (depth + 1) rest with
          | some (items, rest) => some (.list items, rest)
          | none => none
      else none
    | '\x7b' :: rest =>
      if depth + 1 < depthLimit then
        match skipBlanks rest with
        | '\x7d' :: rest => some (.table [], rest)
        | rest =>
          match readPairs fuel (depth + 1) [] rest with
          | some (entries, rest) => some (.table (entriesDocument entries), rest)
          | none => none
      else none
    | cs => readScalar cs

/-- The items of an array up to its end; a comma may follow the last one. -/
def readItems : (fuel : Nat) → (depth : Nat) → Reader (List Document)
  | 0, _, _ => none
  | fuel + 1, depth, cs =>
    match readValue fuel depth cs with
    | none => none
    | some (item, rest) =>
      match skipLines (rest.length + 1) rest with
      | some (',' :: rest) =>
        match skipLines (rest.length + 1) rest with
        | none => none
        | some (']' :: rest) => some ([item], rest)
        | some rest =>
          match readItems fuel depth rest with
          | some (items, rest) => some (item :: items, rest)
          | none => none
      | some (']' :: rest) => some ([item], rest)
      | _ => none

/-- The pairs of an inline table up to its end, added to `entries`; they stay on one line, and no
comma follows the last one. -/
def readPairs : (fuel : Nat) → (depth : Nat) → (entries : Entries) → Reader Entries
  | 0, _, _, _ => none
  | fuel + 1, depth, entries, cs =>
    match readKey cs with
    | none => none
    | some (key, rest) =>
      match rest with
      | '=' :: rest =>
        match readValue fuel depth (skipBlanks rest) with
        | none => none
        | some (d, rest) =>
          match entries.define key.dropLast (key.getLastD "") d .header with
          | none => none
          | some entries =>
            match skipBlanks rest with
            | ',' :: rest => readPairs fuel depth entries rest
            | '\x7d' :: rest => some (entries, rest)
            | _ => none
      | _ => none

end

/-! ## Lines -/

/-- What a line says. -/
inductive Line
  | blank
  | table (key : List String)
  | arrayItem (key : List String)
  | pair (key : List String) (d : Document)

/-- A line, without its end. -/
def readLine (cs : List Char) : Option (Line × List Char) :=
  match cs with
  | '[' :: '[' :: rest =>
    match readKey rest with
    | some (key, ']' :: ']' :: rest) => some (.arrayItem key, rest)
    | _ => none
  | '[' :: rest =>
    match readKey rest with
    | some (key, ']' :: rest) => some (.table key, rest)
    | _ => none
  | cs =>
    if (lineEnd? cs).isSome then some (.blank, cs)
    else
      match readKey cs with
      | some (key, '=' :: rest) =>
        match readValue (2 * rest.length + 2) 0 (skipBlanks rest) with
        | some (d, rest) => some (.pair key d, rest)
        | none => none
      | _ => none

/-- The file so far: its entries, and the path of the table that pairs go to. -/
structure State where
  current : List String := []
  root : Entries := []

/-- The file with one more line. -/
def State.step (s : State) : Line → Option State
  | .blank => some s
  | .table key =>
    (s.root.openTable key.dropLast (key.getLastD "")).map fun root => ⟨key, root⟩
  | .arrayItem key =>
    (s.root.openArrayItem key.dropLast (key.getLastD "")).map fun root => ⟨key, root⟩
  | .pair key d =>
    (s.root.update .implied (Entries.define key.dropLast (key.getLastD "") d) s.current .header).map
      fun root => { s with root }

/-- The rest of a file. -/
def readLines : (fuel : Nat) → State → List Char → Option State
  | 0, _, _ => none
  | fuel + 1, s, cs =>
    match skipBlanks cs with
    | [] => some s
    | cs =>
      match readLine cs with
      | none => none
      | some (line, rest) =>
        match s.step line, lineEnd? rest with
        | some s, some rest => readLines fuel s rest
        | _, _ => none

end Safeguard.Toml

namespace Safeguard.Document

/-- The document that a TOML file holds; a byte order mark at its start is skipped. -/
def ofToml? (s : String) : Option Document :=
  let cs := s.toList
  let cs := if cs.head? = some '\ufeff' then cs.tail else cs
  (Toml.readLines (cs.length + 1) {} cs).map fun s => .table (Toml.entriesDocument s.root)

end Safeguard.Document
