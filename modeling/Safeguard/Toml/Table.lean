import Safeguard.Document.Basic

/-!
# Tables under construction

A TOML file writes the parts of a table in several places, and the rules on what may be said twice
depend on how a table came to be: by a header of its own, by a header further down, or by a dotted
key. `Node` keeps that origin while the file is read. `define` sets a value under a dotted key,
`openTable` and `openArrayItem` carry out headers; each fails where the file says something twice.
`Node.document` forgets the origins.
-/

namespace Safeguard.Toml

/-- How a table came to be. -/
inductive Origin
  /-- By its own header, or by the start of the file. -/
  | header
  /-- By the header of a table inside it. -/
  | implied
  /-- By a dotted key. -/
  | dotted
  deriving DecidableEq

/-- What a key stands for while the file is read. -/
inductive Node
  | value (d : Document)
  | table (origin : Origin) (entries : List (String × Node))
  | tables (items : List (List (String × Node)))

/-- The entries of a table, in the order of the file. -/
abbrev Entries := List (String × Node)

namespace Entries

/-- What a key stands for. -/
def find (key : String) : Entries → Option Node
  | [] => none
  | (name, node) :: rest => if name = key then some node else find key rest

/-- The entries with one key set, in its place or at the end. -/
def set (key : String) (node : Node) : Entries → Entries
  | [] => [(key, node)]
  | (name, old) :: rest =>
    if name = key then (key, node) :: rest else (name, old) :: set key node rest

/-- Changes the table at the end of a path. Tables that are missing on the way are made with the
origin `made`; the last item of an array of tables stands for the array. A path of a dotted key
may not lead through a table that has a header. -/
def update (made : Origin) (change : Origin → Entries → Option Entries) :
    (path : List String) → Origin → Entries → Option Entries
  | [], origin, entries => change origin entries
  | key :: path, _, entries =>
    match entries.find key with
    | none =>
      (update made change path made []).map fun inner => entries.set key (.table made inner)
    | some (.value _) => none
    | some (.table origin inner) =>
      if made = .dotted ∧ origin = .header then none
      else
        (update made change path origin inner).map fun inner =>
          entries.set key (.table origin inner)
    | some (.tables items) =>
      match items.getLast? with
      | none => none
      | some inner =>
        (update made change path .header inner).map fun inner =>
          entries.set key (.tables (items.dropLast ++ [inner]))

/-- Sets a value under a dotted key of a table. A key of several parts may only add to tables
that dotted keys have made. -/
def define (path : List String) (key : String) (d : Document) (origin : Origin)
    (entries : Entries) : Option Entries :=
  update .dotted
    (fun origin entries =>
      if (origin == .dotted) == path.isEmpty then none
      else if (entries.find key).isSome then none
      else some (entries.set key (.value d)))
    path origin entries

/-- Carries out the header of a table: makes it, or takes over one that inner headers implied. -/
def openTable (path : List String) (key : String) (entries : Entries) : Option Entries :=
  update .implied
    (fun _ entries =>
      match entries.find key with
      | none => some (entries.set key (.table .header []))
      | some (.table .implied inner) => some (entries.set key (.table .header inner))
      | some _ => none)
    path .header entries

/-- Carries out the header of an item of an array of tables: adds an empty one. -/
def openArrayItem (path : List String) (key : String) (entries : Entries) : Option Entries :=
  update .implied
    (fun _ entries =>
      match entries.find key with
      | none => some (entries.set key (.tables [[]]))
      | some (.tables items) => some (entries.set key (.tables (items ++ [[]])))
      | some _ => none)
    path .header entries

end Entries

mutual

/-- The document that a node has become. -/
def Node.document : Node → Document
  | .value d => d
  | .table _ entries => .table (entriesDocument entries)
  | .tables items => .list (itemsDocument items)

/-- The fields of a table. -/
def entriesDocument : List (String × Node) → List (String × Document)
  | [] => []
  | (name, node) :: rest => (name, node.document) :: entriesDocument rest

/-- The items of an array of tables. -/
def itemsDocument : List (List (String × Node)) → List Document
  | [] => []
  | entries :: rest => .table (entriesDocument entries) :: itemsDocument rest

end

end Safeguard.Toml
