import Safeguard.Document.Basic
import Safeguard.Time.Basic

/-!
# Reading records out of documents

A record is read from a table, by the names of its fields, or from a list, by their places. Each
field says what it does when nothing is given for it: it takes a default, it is empty, or the
record cannot be read. A list may stop early where the remaining fields have defaults; whether it
may go on after the last field is up to the document's format.
-/

namespace Safeguard

/-- What a format does with list items beyond the last field of a record. -/
inductive Surplus
  | refused
  | ignored
  deriving DecidableEq

/-- What a document gives for a field: a value, nothing by that name, or nothing at that place
because the list has ended. -/
inductive Slot
  | given (value : Document)
  | missing
  | beyond

/-- What a document gives for each field of a record. -/
abbrev Record := String → Slot

namespace Document

/-- The record with fields of these names, in this order, that a document holds. -/
def record? (surplus : Surplus) (names : List String) : Document → Option Record
  | .table fields => some fun name =>
    match field? name fields with
    | some d => .given d
    | none => .missing
  | .list items =>
    if surplus = .refused ∧ names.length < items.length then none
    else some fun name =>
      match items[names.idxOf name]? with
      | some d => .given d
      | none => .beyond
  | _ => none

/-! ## Plain values -/

/-- A number of 32 bits. -/
def asWord32? : Document → Option UInt32
  | .int n => if 0 ≤ n ∧ n ≤ 4294967295 then some (UInt32.ofNat n.toNat) else none
  | _ => none

/-- A number of 64 bits. -/
def asWord64? : Document → Option UInt64
  | .int n => if 0 ≤ n ∧ n ≤ 18446744073709551615 then some (UInt64.ofNat n.toNat) else none
  | _ => none

/-- A duration, written in whole milliseconds. -/
def asMillis? (d : Document) : Option Nat := d.asWord64?.map ofMillis

/-- A double; integers are taken for the nearest one. -/
def asFloat? : Document → Option Float
  | .float x => some x
  | .int n =>
    let size := (UInt64.ofNat n.natAbs).toFloat
    some (if n < 0 then -size else size)
  | _ => none

/-- A truth value. -/
def asBool? : Document → Option Bool
  | .bool b => some b
  | _ => none

/-- A text. -/
def asText? : Document → Option String
  | .text s => some s
  | _ => none

/-- A list of values of one kind. -/
def asList? {α : Type} (read : Document → Option α) : Document → Option (List α)
  | .list items => items.mapM read
  | _ => none

/-- A value, or null for its absence. -/
def asOptional? {α : Type} (read : Document → Option α) : Document → Option (Option α)
  | .null => some none
  | d => (read d).map some

/-- A table of values of one kind. -/
def asFields? {α : Type} (read : Document → Option α) :
    Document → Option (List (String × α))
  | .table fields => fields.mapM fun (name, d) => (read d).map fun a => (name, a)
  | _ => none

/-- One of a few names: a text, or a table whose only field has the name and no value. -/
def asName? : Document → Option String
  | .text s => some s
  | .table [(s, .null)] => some s
  | _ => none

/-- A duration in whole milliseconds. -/
def millis (d : Nat) : Document := .nat (wholeMillis d).toNat

/-- A number of 64 bits. -/
def word64 (n : UInt64) : Document := .nat n.toNat

/-- A number of 32 bits. -/
def word32 (n : UInt32) : Document := .nat n.toNat

/-- A list of texts. -/
def texts (l : List String) : Document := .list (l.map .text)

end Document

namespace Slot

variable {α : Type}

/-- A field with a default. -/
def withDefault (default : α) (read : Document → Option α) : Slot → Option α
  | .given d => read d
  | .missing => some default
  | .beyond => some default

/-- A field that has to be given. -/
def required (read : Document → Option α) : Slot → Option α
  | .given d => read d
  | .missing => none
  | .beyond => none

/-- A field that a table may leave out for null, and a list may not. -/
def nullable (read : Document → Option α) : Slot → Option (Option α)
  | .given d => d.asOptional? read
  | .missing => some none
  | .beyond => none

/-- A field that may be left out or null. -/
def optional (read : Document → Option α) (s : Slot) : Option (Option α) :=
  s.withDefault none (Document.asOptional? read)

end Slot

end Safeguard
