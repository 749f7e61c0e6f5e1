import Mathlib.Data.List.Infix
import Safeguard.Document.Record

/-!
# Paths into documents

A path of names leads from table to table and then to a value (`Document.at?`). Two documents may be
the same beside a path (`Document.SameBeside`): one of them has a value there that the other one has
not, or they have different ones, as when a value is written there (`Document.sameBeside_write`).
Then they have the same values at every path that does not lead through the first one, nor the other
way around (`Document.SameBeside.at?_eq`).

What a record has for a field comes from one place in the document, or it is a default
(`Document.Filled`).
-/

namespace Safeguard.Document

/-- Whether a document is a table. -/
def IsTable : Document → Prop
  | .table _ => True
  | _ => False

instance : DecidablePred IsTable := fun d => by
  cases d <;> unfold IsTable <;> infer_instance

/-- Whether a document is null. -/
def isNull : Document → Bool
  | .null => true
  | _ => false

/-! ## Paths -/

/-- The value at the end of a path. -/
def at? : Document → List String → Option Document
  | d, [] => some d
  | d, name :: rest => (d.get? name).bind fun inner => inner.at? rest

/-- What a document has under a name; to have nothing there is as good as an empty table. -/
def inner (d : Document) (name : String) : Document := (d.get? name).getD (.table [])

theorem at?_cons_of_ne_nil {rest : List String} (ne : rest ≠ []) (d : Document) (name : String) :
    d.at? (name :: rest) = (d.inner name).at? rest := by
  rw [at?, inner]
  cases d.get? name with
  | some v => rfl
  | none =>
    obtain ⟨next, rest, rfl⟩ := List.exists_cons_of_ne_nil ne
    rfl

theorem at?_singleton (d : Document) (name : String) : d.at? [name] = d.get? name :=
  Option.bind_fun_some _

theorem at?_pair (d : Document) (name last : String) :
    d.at? [name, last] = (d.inner name).get? last := by
  rw [at?_cons_of_ne_nil (List.cons_ne_nil _ _), at?_singleton]

/-- What is there is a table, or nothing is there. -/
theorem isTable_inner {d : Document} {name : String} (tables : ∀ v ∈ d.at? [name], v.IsTable) :
    (d.inner name).IsTable := by
  rw [inner]
  cases found : d.get? name with
  | none => trivial
  | some v => exact tables v (by rw [at?_singleton, found]; rfl)

/-- Neither of two paths leads through the other one. -/
def Apart (path other : List String) : Prop := ¬path <+: other ∧ ¬other <+: path

instance (path other : List String) : Decidable (Apart path other) :=
  inferInstanceAs (Decidable (¬path <+: other ∧ ¬other <+: path))

/-- Documents that have the same values but for what is at a path: there, a value may have been
added, changed or removed. -/
def SameBeside : List String → Document → Document → Prop
  | [], _, _ => True
  | name :: rest, d, d' =>
    (∀ other, other ≠ name → d.get? other = d'.get? other) ∧
      SameBeside rest (d.inner name) (d'.inner name)

theorem SameBeside.at?_eq {path other : List String} {d d' : Document}
    (same : SameBeside path d d') (apart : Apart path other) : d.at? other = d'.at? other := by
  induction path generalizing other d d' with
  | nil => exact absurd List.nil_prefix apart.1
  | cons name path ih =>
    obtain ⟨beside, within⟩ := same
    cases other with
    | nil => exact absurd List.nil_prefix apart.2
    | cons next other =>
      by_cases eq : next = name
      · subst eq
        have apart : Apart path other :=
          ⟨fun leads => apart.1 (List.cons_prefix_cons.mpr ⟨rfl, leads⟩),
            fun leads => apart.2 (List.cons_prefix_cons.mpr ⟨rfl, leads⟩)⟩
        have ne : other ≠ [] := fun nil => apart.2 (nil ▸ List.nil_prefix)
        rw [at?_cons_of_ne_nil ne, at?_cons_of_ne_nil ne, ih within apart]
      · rw [at?, at?, beside next eq]

/-! ## Writing -/

/-- A table with the value of a field set, or without the field. What is not a table stays as it
is. -/
def withField (d : Document) (name : String) (v : Option Document) : Document :=
  match d, v with
  | .table fields, some v => .table (setField name v fields)
  | .table fields, none => .table (fields.filter fun f => f.1 ≠ name)
  | d, _ => d

/-- The document with a value at a path, or with none there. On the way to it, tables are made where
nothing is. -/
def write : Document → List String → Option Document → Document
  | d, [], _ => d
  | d, [name], v => d.withField name v
  | d, name :: next :: rest, v => d.withField name ((d.inner name).write (next :: rest) v)

/-- Whether there are only tables on the way to the end of a path, as far as there is anything. -/
def Leads : Document → List String → Prop
  | _, [] => True
  | d, name :: rest => d.IsTable ∧ (d.inner name).Leads rest

section WithField

variable {d : Document} {name : String}

theorem field?_filter_self (name : String) (fields : List (String × Document)) :
    field? name (fields.filter fun f => f.1 ≠ name) = none := by
  induction fields with
  | nil => rfl
  | cons f fields ih =>
    by_cases eq : f.1 = name
    · rw [List.filter_cons_of_neg (by simpa using eq), ih]
    · rw [List.filter_cons_of_pos (by simpa using eq), field?, if_neg eq, ih]

theorem field?_filter_ne {other : String} (ne : other ≠ name)
    (fields : List (String × Document)) :
    field? other (fields.filter fun f => f.1 ≠ name) = field? other fields := by
  induction fields with
  | nil => rfl
  | cons f fields ih =>
    by_cases eq : f.1 = name
    · rw [List.filter_cons_of_neg (by simpa using eq), ih, field?, if_neg (eq ▸ ne.symm)]
    · rw [List.filter_cons_of_pos (by simpa using eq), field?, field?, ih]

theorem get?_withField_ne {other : String} (ne : other ≠ name) (v : Option Document) :
    (d.withField name v).get? other = d.get? other := by
  cases d with
  | table fields =>
    cases v with
    | some v => exact field?_setField_ne ne v fields
    | none => exact field?_filter_ne ne fields
  | _ => rfl

theorem get?_withField_self (table : d.IsTable) (v : Option Document) :
    (d.withField name v).get? name = v := by
  cases d with
  | table fields =>
    cases v with
    | some v => exact field?_setField_self name v fields
    | none => exact field?_filter_self name fields
  | _ => exact table.elim

theorem isTable_withField (table : d.IsTable) (v : Option Document) :
    (d.withField name v).IsTable := by
  cases d with
  | table fields => cases v <;> trivial
  | _ => exact table.elim

theorem inner_withField_self (table : d.IsTable) (v : Document) :
    (d.withField name v).inner name = v := by
  rw [inner, get?_withField_self table, Option.getD_some]

end WithField

section Write

variable {path : List String} {d : Document}

/-- What is written at a path is there then. -/
theorem at?_write (ne : path ≠ []) (leads : d.Leads path) (v : Option Document) :
    (d.write path v).at? path = v := by
  induction path generalizing d with
  | nil => exact absurd rfl ne
  | cons name path ih =>
    obtain ⟨table, within⟩ := leads
    cases path with
    | nil => rw [write, at?_singleton, get?_withField_self table]
    | cons next rest =>
      have more : next :: rest ≠ [] := List.cons_ne_nil _ _
      rw [write, at?_cons_of_ne_nil more, inner_withField_self table, ih more within]

/-- Nothing else is changed. -/
theorem sameBeside_write (leads : d.Leads path) (v : Option Document) :
    SameBeside path d (d.write path v) := by
  induction path generalizing d with
  | nil => trivial
  | cons name path ih =>
    obtain ⟨table, within⟩ := leads
    cases path with
    | nil => exact ⟨fun _ ne => (get?_withField_ne ne v).symm, trivial⟩
    | cons next rest =>
      refine ⟨fun _ ne => (get?_withField_ne ne _).symm, ?_⟩
      rw [write, inner_withField_self table]
      exact ih within

/-- The tables on the way stay tables. -/
theorem isTable_write (leads : d.Leads path) (v : Option Document) {before : List String}
    (on_the_way : before <+: path) (ne : before ≠ path) :
    ∀ w ∈ (d.write path v).at? before, w.IsTable := by
  induction path generalizing d before with
  | nil => exact absurd (List.prefix_nil.mp on_the_way) ne
  | cons name path ih =>
    obtain ⟨table, within⟩ := leads
    cases before with
    | nil =>
      rintro w ⟨⟩
      cases path <;> exact isTable_withField table _
    | cons first before =>
      obtain ⟨rfl, later⟩ := List.cons_prefix_cons.mp on_the_way
      have ne : before ≠ path := fun eq => ne (eq ▸ rfl)
      cases path with
      | nil => exact absurd (List.prefix_nil.mp later) ne
      | cons next rest =>
        rw [write, at?, get?_withField_self table]
        exact ih within later ne

end Write

/-! ## Fields -/

/-- What a record has for a field: the value that is given is read, or none is given and it is the
default. -/
inductive Filled {α : Type} (read : Document → Option α) (default : α) :
    (given : Option Document) → α → Prop
  | read {v : Document} {a : α} (reads : read v = some a) : Filled read default (some v) a
  | default : Filled read default none default

variable {α β : Type} {surplus : Surplus} {names : List String} {name : String} {d : Document}
  {r : Record} {read : Document → Option α} {default a : α}

theorem Filled.unique {given : Option Document} {a' : α} (filled : Filled read default given a)
    (filled' : Filled read default given a') : a = a' := by
  cases filled with
  | read reads =>
    cases filled' with
    | read reads' => exact Option.some.inj (reads.symm.trans reads')
  | default =>
    cases filled' with
    | default => rfl

/-- A table gives for a field what it has under its name. -/
theorem record?_of_isTable (table : d.IsTable) (fields : d.record? surplus names = some r) :
    r name = match d.get? name with
      | some v => .given v
      | none => .missing := by
  cases d with
  | table entries =>
    cases fields
    rfl
  | _ => exact table.elim

theorem filled_of_withDefault (table : d.IsTable) (fields : d.record? surplus names = some r)
    (taken : (r name).withDefault default read = some a) :
    Filled read default (d.get? name) a := by
  rw [record?_of_isTable table fields] at taken
  cases found : d.get? name with
  | some v =>
    rw [found] at taken
    exact .read taken
  | none =>
    rw [found] at taken
    cases taken
    exact .default

/-- A table that is left out is read as if it were empty. -/
theorem inner_of_withDefault (empty : read (.table []) = some default) (table : d.IsTable)
    (fields : d.record? surplus names = some r)
    (taken : (r name).withDefault default read = some a) : read (d.inner name) = some a := by
  have filled := filled_of_withDefault table fields taken
  rw [inner]
  cases found : d.get? name with
  | some v =>
    rw [found] at filled
    obtain ⟨reads⟩ := filled
    exact reads
  | none =>
    rw [found] at filled
    obtain ⟨⟩ := filled
    exact empty

theorem asOptional?_of_isNull_eq_false {v : Document} (value : v.isNull = false) :
    v.asOptional? read = (read v).map some := by
  cases v with
  | null => cases value
  | _ => rfl

theorem eq_null_of_isNull {v : Document} (null : v.isNull = true) : v = .null := by
  cases v with
  | null => rfl
  | _ => cases null

/-- A field that may be left out is as good as left out if it is null. -/
theorem filled_of_optional {read' : Document → Option β} (f : α → β) {default : β} {o : Option α}
    (reads_value : ∀ v, v.isNull = false → read' v = (read v).map f) (table : d.IsTable)
    (fields : d.record? surplus names = some r) (taken : (r name).optional read = some o) :
    Filled read' default ((d.get? name).filter fun v => !v.isNull) ((o.map f).getD default) := by
  have filled : Filled (asOptional? read) none (d.get? name) o :=
    filled_of_withDefault table fields taken
  generalize d.get? name = given at filled
  cases filled with
  | default => exact .default
  | @read v _ reads =>
    cases null : v.isNull with
    | true =>
      obtain rfl := eq_null_of_isNull null
      cases reads
      exact .default
    | false =>
      rw [asOptional?_of_isNull_eq_false null] at reads
      obtain ⟨a, read_a, rfl⟩ := Option.map_eq_some_iff.mp reads
      rw [Option.filter_some, if_pos (by rw [null]; rfl)]
      exact .read (by rw [reads_value v null, read_a]; rfl)

theorem filled_of_optional_self {o : Option α} (table : d.IsTable)
    (fields : d.record? surplus names = some r) (taken : (r name).optional read = some o) :
    Filled read default ((d.get? name).filter fun v => !v.isNull) (o.getD default) := by
  have same : o.map id = o := Option.map_id_apply
  rw [← same]
  exact filled_of_optional id (fun _ _ => Option.map_id_apply.symm) table fields taken

end Safeguard.Document
