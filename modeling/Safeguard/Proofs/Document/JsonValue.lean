import Safeguard.Document.Json
import Safeguard.Document.Record

/-!
# JSON values

JSON has no doubles other than numbers: a document that is made into a JSON value has null in
their place and keeps everything else (`Document.jsonValue`). A document without such doubles is
a JSON value as it stands (`Document.IsJson`), and so is everything in it.
-/

namespace Safeguard.Document

mutual

/-- The JSON value that a document is made into: null stands for doubles that are no numbers. -/
def jsonValue : Document → Document
  | .float x => if x.isFinite then .float x else .null
  | .list items => .list (jsonItems items)
  | .table fields => .table (jsonFields fields)
  | .null => .null
  | .bool b => .bool b
  | .int n => .int n
  | .text s => .text s

/-- The JSON values of the items of a list. -/
def jsonItems : List Document → List Document
  | [] => []
  | item :: rest => item.jsonValue :: jsonItems rest

/-- The JSON values of the fields of a table. -/
def jsonFields : List (String × Document) → List (String × Document)
  | [] => []
  | (name, value) :: rest => (name, value.jsonValue) :: jsonFields rest

end

/-- A document that is a JSON value. -/
def IsJson (d : Document) : Prop := d.jsonValue = d

theorem IsJson.jsonValue_eq {d : Document} (h : d.IsJson) : d.jsonValue = d := h

mutual

/-- What a document is made into is a JSON value. -/
theorem isJson_jsonValue (d : Document) : d.jsonValue.IsJson := by
  match d with
  | .float x =>
    by_cases finite : x.isFinite = true
    · simp [jsonValue, IsJson, finite]
    · simp [jsonValue, IsJson, finite]
  | .list items => exact congrArg Document.list (jsonItems_jsonItems items)
  | .table fields => exact congrArg Document.table (jsonFields_jsonFields fields)
  | .null | .bool _ | .int _ | .text _ => exact rfl

theorem jsonItems_jsonItems (items : List Document) :
    jsonItems (jsonItems items) = jsonItems items := by
  match items with
  | [] => rfl
  | item :: rest =>
    simp only [jsonItems, (isJson_jsonValue item).jsonValue_eq, jsonItems_jsonItems rest]

theorem jsonFields_jsonFields (fields : List (String × Document)) :
    jsonFields (jsonFields fields) = jsonFields fields := by
  match fields with
  | [] => rfl
  | (name, value) :: rest =>
    simp only [jsonFields, (isJson_jsonValue value).jsonValue_eq, jsonFields_jsonFields rest]

end

/-! ## What a JSON value is made of -/

@[simp] theorem isJson_null : IsJson .null := rfl

@[simp] theorem isJson_bool (b : Bool) : IsJson (.bool b) := rfl

@[simp] theorem isJson_int (n : Int) : IsJson (.int n) := rfl

@[simp] theorem isJson_text (s : String) : IsJson (.text s) := rfl

@[simp] theorem isJson_float_iff (x : Float) : IsJson (.float x) ↔ x.isFinite = true := by
  by_cases finite : x.isFinite = true <;> simp [IsJson, jsonValue, finite]

theorem jsonItems_eq_self_iff (items : List Document) :
    jsonItems items = items ↔ ∀ d ∈ items, d.IsJson := by
  induction items with
  | nil => simp [jsonItems]
  | cons item rest ih => simp [jsonItems, ih, IsJson]

theorem jsonFields_eq_self_iff (fields : List (String × Document)) :
    jsonFields fields = fields ↔ ∀ e ∈ fields, e.2.IsJson := by
  induction fields with
  | nil => simp [jsonFields]
  | cons e rest ih =>
    simp only [jsonFields, List.cons.injEq, Prod.ext_iff, true_and, List.forall_mem_cons, ih,
      IsJson]

@[simp] theorem isJson_list_iff (items : List Document) :
    IsJson (.list items) ↔ ∀ d ∈ items, d.IsJson := by
  rw [IsJson, jsonValue, Document.list.injEq, jsonItems_eq_self_iff]

@[simp] theorem isJson_table_iff (fields : List (String × Document)) :
    IsJson (.table fields) ↔ ∀ e ∈ fields, e.2.IsJson := by
  rw [IsJson, jsonValue, Document.table.injEq, jsonFields_eq_self_iff]

@[simp] theorem isJson_millis (d : Nat) : IsJson (millis d) := rfl

@[simp] theorem isJson_word64 (n : UInt64) : IsJson (word64 n) := rfl

@[simp] theorem isJson_word32 (n : UInt32) : IsJson (word32 n) := rfl

@[simp] theorem isJson_texts (l : List String) : IsJson (texts l) := by
  simp [texts]

@[simp] theorem isJson_optional_iff {α : Type} (encode : α → Document) (o : Option α) :
    IsJson (optional encode o) ↔ ∀ a ∈ o, (encode a).IsJson := by
  cases o <;> simp [optional]

/-! ## The text of a JSON value -/

mutual

/-- A document and its JSON value have the same text. -/
theorem written_jsonValue (d : Document) : Json.written d.jsonValue = Json.written d := by
  match d with
  | .float x =>
    by_cases finite : x.isFinite = true
    · simp [jsonValue, finite]
    · simp [jsonValue, Json.written, Json.writtenFloat, finite]
  | .list items => simp only [jsonValue, Json.written, writtenItems_jsonItems items]
  | .table fields => simp only [jsonValue, Json.written, writtenFields_jsonFields fields]
  | .null | .bool _ | .int _ | .text _ => rfl

theorem writtenItems_jsonItems (items : List Document) :
    Json.writtenItems (jsonItems items) = Json.writtenItems items := by
  match items with
  | [] => rfl
  | item :: rest =>
    simp only [jsonItems, Json.writtenItems, written_jsonValue item, writtenItems_jsonItems rest]

theorem writtenFields_jsonFields (fields : List (String × Document)) :
    Json.writtenFields (jsonFields fields) = Json.writtenFields fields := by
  match fields with
  | [] => rfl
  | (name, value) :: rest =>
    simp only [jsonFields, Json.writtenFields, written_jsonValue value,
      writtenFields_jsonFields rest]

end

/-! ## Fields of records -/

theorem isJson_of_field? {name : String} {fields : List (String × Document)} {d : Document}
    (json : IsJson (.table fields)) (found : field? name fields = some d) : d.IsJson := by
  rw [isJson_table_iff] at json
  induction fields with
  | nil => cases found
  | cons e rest ih =>
    obtain ⟨key, value⟩ := e
    rw [field?] at found
    split at found
    · rw [← Option.some.inj found]
      exact json _ List.mem_cons_self
    · exact ih (fun e later => json e (List.mem_cons_of_mem _ later)) found

end Safeguard.Document

namespace Safeguard

/-- A field for which a JSON value is given, or nothing. -/
def Slot.IsJson (s : Slot) : Prop := ∀ d, s = .given d → d.IsJson

/-- The fields of a JSON value are JSON values. -/
theorem Document.isJson_of_record? {surplus : Surplus} {names : List String} {d : Document}
    {r : Record} (json : d.IsJson) (read : d.record? surplus names = some r) (name : String) :
    (r name).IsJson := by
  intro value given
  cases d with
  | table fields =>
    simp only [record?, Option.some.injEq] at read
    subst read
    dsimp only at given
    split at given
    · rename_i found
      cases given
      exact isJson_of_field? json found
    · cases given
  | list items =>
    simp only [record?] at read
    split at read
    · cases read
    · simp only [Option.some.injEq] at read
      subst read
      dsimp only at given
      split at given
      · rename_i found
        cases given
        exact (isJson_list_iff items).1 json _ (List.mem_of_getElem? found)
      · cases given
  | null | bool | int | float | text => cases read

end Safeguard
