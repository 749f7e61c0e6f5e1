import Safeguard.NameMap
import Safeguard.Proofs.Document.JsonValue
import Safeguard.Proofs.Numeric.Finite

/-!
# Written forms that lose nothing

A way to write values and a way to read them are `Lossless` together if whatever is written is
read again, up to what the written form cannot hold: the part of a duration below a millisecond.
Values without infinite doubles are written as JSON values, and nothing else is read from them.
Numbers, texts and truth values have such forms, and lists, maps and values that may be absent
have them if their parts do.
-/

namespace Safeguard

open Document

/-- A duration without the part below a millisecond, at most as long as 64 bits of milliseconds. -/
def truncatedToMillis (d : Nat) : Nat := min (d / 1000000) maxWord64 * 1000000

theorem ofMillis_wholeMillis (d : Nat) : ofMillis (wholeMillis d) = truncatedToMillis d := by
  rw [ofMillis, toNat_wholeMillis, truncatedToMillis]

@[simp] theorem truncatedToMillis_ofMillis (n : UInt64) :
    truncatedToMillis (ofMillis n) = ofMillis n := by
  rw [← ofMillis_wholeMillis, wholeMillis_ofMillis]

/-- A way to read values and a way to write them that belong together. `settle` is what the
written form keeps of a value, and `Finite` says that it has no infinite doubles. -/
structure Lossless {α : Type} (read : Document → Option α) (write : α → Document)
    (settle : α → α) (Finite : α → Prop) : Prop where
  read_write : ∀ a, read (write a) = some (settle a)
  isJson_write : ∀ {a}, Finite a → (write a).IsJson
  of_read : ∀ {d a}, d.IsJson → read d = some a → Finite a ∧ settle a = a

namespace Lossless

/-! ## Plain values -/

theorem word32 : Lossless asWord32? Document.word32 id fun _ => True where
  read_write n := by
    have lt := n.toNat_lt
    simp only [asWord32?, Document.word32, Document.nat]
    rw [if_pos (by omega), Int.toNat_natCast]
    simp
  isJson_write _ := rfl
  of_read _ _ := ⟨trivial, rfl⟩

theorem word64 : Lossless asWord64? Document.word64 id fun _ => True where
  read_write n := by
    have lt := n.toNat_lt
    simp only [asWord64?, Document.word64, Document.nat]
    rw [if_pos (by omega), Int.toNat_natCast]
    simp
  isJson_write _ := rfl
  of_read _ _ := ⟨trivial, rfl⟩

theorem millis : Lossless asMillis? Document.millis truncatedToMillis fun _ => True where
  read_write d := by
    have read : asWord64? (Document.millis d) = some (wholeMillis d) := word64.read_write _
    rw [asMillis?, read, Option.map_some, ofMillis_wholeMillis]
  isJson_write _ := rfl
  of_read _ read := by
    obtain ⟨n, -, rfl⟩ := Option.map_eq_some_iff.1 read
    exact ⟨trivial, truncatedToMillis_ofMillis n⟩

theorem float : Lossless asFloat? Document.float id fun x => x.isFinite = true where
  read_write _ := rfl
  isJson_write finite := (isJson_float_iff _).2 finite
  of_read {d x} json read := by
    refine ⟨?_, rfl⟩
    cases d with
    | float y =>
      cases read
      exact (isJson_float_iff x).1 json
    | int n =>
      cases read
      split
      · exact Double.isFinite_neg (Double.isFinite_toFloat _)
      · exact Double.isFinite_toFloat _
    | null | bool | text | list | table => cases read

theorem bool : Lossless asBool? Document.bool id fun _ => True where
  read_write _ := rfl
  isJson_write _ := rfl
  of_read _ _ := ⟨trivial, rfl⟩

theorem text : Lossless asText? Document.text id fun _ => True where
  read_write _ := rfl
  isJson_write _ := rfl
  of_read _ _ := ⟨trivial, rfl⟩

/-- A value with a name. -/
theorem named {α : Type} {ofName? : String → Option α} {name : α → String}
    (ofName?_name : ∀ a, ofName? (name a) = some a) :
    Lossless (fun d => d.asName?.bind ofName?) (fun a => .text (name a)) id fun _ => True where
  read_write a := ofName?_name a
  isJson_write _ := rfl
  of_read _ _ := ⟨trivial, rfl⟩

/-! ## Composed values -/

variable {α : Type} {read : Document → Option α} {write : α → Document} {settle : α → α}
  {Finite : α → Prop}

/-- Absence is written as null, which must not stand for a value. -/
theorem optional (l : Lossless read write settle Finite) (write_ne : ∀ a, write a ≠ .null) :
    Lossless (asOptional? read) (Document.optional write) (Option.map settle)
      fun o => ∀ a ∈ o, Finite a where
  read_write o := by
    cases o with
    | none => rfl
    | some a =>
      have ne := write_ne a
      rw [Document.optional, asOptional?.eq_2 _ _ ne, l.read_write]
      rfl
  isJson_write finite :=
    (isJson_optional_iff write _).2 fun a mem => l.isJson_write (finite a mem)
  of_read {d o} json read := by
    by_cases null : d = .null
    · subst null
      cases read
      simp
    · rw [asOptional?.eq_2 _ _ null] at read
      obtain ⟨a, inner, rfl⟩ := Option.map_eq_some_iff.1 read
      obtain ⟨finite, settled⟩ := l.of_read json inner
      simp [finite, settled]

/-- The written form of a value that may be absent loses nothing if that of the value does. -/
theorem optional_id (l : Lossless read write id Finite) (write_ne : ∀ a, write a ≠ .null) :
    Lossless (asOptional? read) (Document.optional write) id fun o => ∀ a ∈ o, Finite a := by
  have l := l.optional write_ne
  rwa [Option.map_id] at l

/-- Whatever is read from several items is read from one of them. -/
theorem exists_of_mapM {δ ε : Type} {f : δ → Option ε} {ds : List δ} {es : List ε}
    (read : ds.mapM f = some es) {e : ε} (mem : e ∈ es) : ∃ d ∈ ds, f d = some e := by
  induction ds generalizing es with
  | nil =>
    cases read
    cases mem
  | cons d rest ih =>
    simp only [List.mapM_cons, Option.bind_eq_bind, Option.bind_eq_some_iff, Option.pure_def,
      Option.some.injEq] at read
    obtain ⟨first, head, others, tail, rfl⟩ := read
    rcases List.mem_cons.1 mem with rfl | mem
    · exact ⟨d, List.mem_cons_self, head⟩
    · obtain ⟨d', mem', found⟩ := ih tail mem
      exact ⟨d', List.mem_cons_of_mem _ mem', found⟩

theorem mapM_map {δ ε : Type} {f : δ → Option ε} {g : ε → δ} {h : ε → ε}
    (read : ∀ e, f (g e) = some (h e)) (es : List ε) : (es.map g).mapM f = some (es.map h) := by
  induction es with
  | nil => rfl
  | cons e rest ih => simp [List.mapM_cons, read, ih]

/-- A list of values. -/
theorem list (l : Lossless read write settle Finite) :
    Lossless (asList? read) (fun as => .list (as.map write)) (List.map settle)
      fun as => ∀ a ∈ as, Finite a where
  read_write as := mapM_map l.read_write as
  isJson_write finite := by
    rw [isJson_list_iff, List.forall_mem_map]
    exact fun a mem => l.isJson_write (finite a mem)
  of_read {d as} json read := by
    cases d with
    | list items =>
      rw [isJson_list_iff] at json
      have of_mem : ∀ a ∈ as, Finite a ∧ settle a = a := fun a mem => by
        obtain ⟨item, inside, found⟩ := exists_of_mapM read mem
        exact l.of_read (json item inside) found
      exact ⟨fun a mem => (of_mem a mem).1,
        (List.map_congr_left fun a mem => (of_mem a mem).2).trans (List.map_id as)⟩
    | null | bool | int | float | text | table => cases read

/-- A list of texts. -/
theorem texts : Lossless (asList? asText?) Document.texts id fun _ => True where
  read_write as := by
    have read := text.list.read_write as
    rwa [List.map_id] at read
  isJson_write _ := isJson_texts _
  of_read _ _ := ⟨trivial, rfl⟩

/-- A map of values, as a table. -/
theorem byName (l : Lossless read write settle Finite) :
    Lossless (fun d => (asFields? read d).map NameMap.ofList)
      (fun m => .table (m.entries.map fun (name, a) => (name, write a)))
      (NameMap.map fun _ => settle) fun m => ∀ e ∈ m.entries, Finite e.2 where
  read_write m := by
    have fields : asFields? read (.table (m.entries.map fun (name, a) => (name, write a))) =
        some (m.map fun _ => settle).entries :=
      mapM_map (fun e => by simp [l.read_write]) m.entries
    rw [fields, Option.map_some, NameMap.ofList_entries]
  isJson_write finite := by
    rw [isJson_table_iff, List.forall_mem_map]
    exact fun e mem => l.isJson_write (finite e mem)
  of_read {d m} json read := by
    obtain ⟨entries, fields, rfl⟩ := Option.map_eq_some_iff.1 read
    cases d with
    | table items =>
      rw [isJson_table_iff] at json
      have of_mem : ∀ e ∈ (NameMap.ofList entries).entries,
          Finite e.2 ∧ settle e.2 = e.2 := fun e mem => by
        obtain ⟨item, inside, found⟩ := exists_of_mapM fields (NameMap.mem_of_mem_ofList mem)
        obtain ⟨a, found, eq⟩ := Option.map_eq_some_iff.1 found
        rw [← eq]
        exact l.of_read (json item inside) found
      refine ⟨fun e mem => (of_mem e mem).1, NameMap.ext ?_⟩
      refine Eq.trans (List.map_congr_left fun e mem => ?_) (List.map_id _)
      exact Prod.ext rfl (of_mem e mem).2
    | null | bool | int | float | text | list => cases fields

/-! ## Fields of records -/

/-- A record is read field by field. -/
theorem bind_eq_some {β γ : Type} {o : Option β} {f : β → Option γ} {b : β} {c : γ}
    (field : o = some b) (rest : f b = some c) : o >>= f = some c := by
  rw [field]
  exact rest

/-- A field that a table has. -/
theorem required_of_found (l : Lossless read write settle Finite) {name : String}
    {fields : List (String × Document)} {a : α} (found : field? name fields = some (write a)) :
    Slot.required read (match field? name fields with
      | some d => .given d
      | none => .missing) = some (settle a) := by
  rw [found]
  exact l.read_write a

/-- A field that a table leaves out where there is nothing to write. -/
theorem optional_of_found (l : Lossless read write settle Finite) (write_ne : ∀ a, write a ≠ .null)
    {name : String} {fields : List (String × Document)} {o : Option α}
    (found : field? name fields = o.map write) :
    Slot.optional read (match field? name fields with
      | some d => .given d
      | none => .missing) = some (o.map settle) := by
  rw [found]
  cases o with
  | none => rfl
  | some a => exact (l.optional write_ne).read_write (some a)

/-- A field with a default. -/
theorem of_withDefault (l : Lossless read write settle Finite) {default : α}
    (of_default : Finite default ∧ settle default = default) {s : Slot} (json : s.IsJson) {a : α}
    (found : s.withDefault default read = some a) : Finite a ∧ settle a = a := by
  cases s with
  | given d => exact l.of_read (json d rfl) found
  | missing | beyond =>
    cases found
    exact of_default

/-- A field that has to be given. -/
theorem of_required (l : Lossless read write settle Finite) {s : Slot} (json : s.IsJson) {a : α}
    (found : s.required read = some a) : Finite a ∧ settle a = a := by
  cases s with
  | given d => exact l.of_read (json d rfl) found
  | missing | beyond => cases found

/-- A field that may be left out or null. -/
theorem of_optional (l : Lossless read write settle Finite) (write_ne : ∀ a, write a ≠ .null)
    {s : Slot} (json : s.IsJson) {o : Option α} (found : s.optional read = some o) :
    (∀ a ∈ o, Finite a) ∧ o.map settle = o :=
  (l.optional write_ne).of_withDefault (by simp) json found

end Lossless

end Safeguard
