/-!
# Documents

The values that configuration files, status reports and requests are made of. Numbers keep the
distinction that their readers make: an integer is exact, any other number is a double. A table
lists its fields in the order in which they were written.
-/

namespace Safeguard

/-- A value of a configuration file or a report. -/
inductive Document
  | null
  | bool (value : Bool)
  | int (value : Int)
  | float (value : Float)
  | text (value : String)
  | list (items : List Document)
  | table (fields : List (String × Document))

namespace Document

instance : Inhabited Document := ⟨.null⟩

/-- A natural number. -/
def nat (n : Nat) : Document := .int n

/-- A value that may be absent, written as null. -/
def optional {α : Type} (encode : α → Document) : Option α → Document
  | some a => encode a
  | none => .null

/-- The value of the first field of a name. -/
def field? (name : String) : List (String × Document) → Option Document
  | [] => none
  | (key, value) :: rest => if key = name then some value else field? name rest

/-- The fields with one of them set: changed in its place, or put at the end. -/
def setField (name : String) (value : Document) :
    List (String × Document) → List (String × Document)
  | [] => [(name, value)]
  | (key, old) :: rest =>
    if key = name then (name, value) :: rest else (key, old) :: setField name value rest

/-- The value of a field of a table. -/
def get? (d : Document) (name : String) : Option Document :=
  match d with
  | .table fields => field? name fields
  | _ => none

theorem field?_append (name : String) (fields others : List (String × Document)) :
    field? name (fields ++ others) = (field? name fields).or (field? name others) := by
  induction fields with
  | nil => rfl
  | cons f rest ih =>
    obtain ⟨key, value⟩ := f
    by_cases h : key = name <;> simp [field?, h, ih]

@[simp] theorem field?_setField_self (name : String) (value : Document)
    (fields : List (String × Document)) :
    field? name (setField name value fields) = some value := by
  induction fields with
  | nil => simp [setField, field?]
  | cons f rest ih =>
    obtain ⟨key, old⟩ := f
    by_cases h : key = name <;> simp [setField, field?, h, ih]

theorem field?_setField_ne {name other : String} (h : other ≠ name) (value : Document)
    (fields : List (String × Document)) :
    field? other (setField name value fields) = field? other fields := by
  induction fields with
  | nil => simp [setField, field?, Ne.symm h]
  | cons f rest ih =>
    obtain ⟨key, old⟩ := f
    by_cases hk : key = name
    · subst hk
      simp [setField, field?, Ne.symm h]
    · simp [setField, field?, hk, ih]

end Document

end Safeguard
