/-!
# Maps from names

`NameMap α` holds at most one value per name, in ascending order of the names (by code points,
which is also the order of their UTF-8 bytes). Its view is `get?`: an insertion changes the value
of one name and of no other, and two maps with the same view are equal.
-/

namespace Safeguard

/-- Entries in strictly ascending order of their names. -/
abbrev Ascending {α : Type} (entries : List (String × α)) : Prop :=
  entries.Pairwise fun a b => a.1 < b.1

/-- Values by name. -/
structure NameMap (α : Type) where
  entries : List (String × α)
  ascending : Ascending entries := by exact List.Pairwise.nil

namespace NameMap

variable {α β : Type}

theorem lt_of_not_lt_of_ne {a b : String} (h : ¬a < b) (hne : a ≠ b) : b < a := by
  by_cases hb : b < a
  · exact hb
  · exact absurd (String.le_antisymm (String.not_lt.1 hb) (String.not_lt.1 h)) hne

/-! ## Entries -/

/-- The value of a name among entries. -/
def find (name : String) : List (String × α) → Option α
  | [] => none
  | (key, value) :: rest => if key = name then some value else find name rest

/-- Entries with the value of one name set. -/
def put (name : String) (value : α) : List (String × α) → List (String × α)
  | [] => [(name, value)]
  | (key, old) :: rest =>
    if name < key then (name, value) :: (key, old) :: rest
    else if name = key then (name, value) :: rest
    else (key, old) :: put name value rest

theorem mem_put {name : String} {value : α} {entries : List (String × α)} {e : String × α}
    (h : e ∈ put name value entries) : e = (name, value) ∨ e ∈ entries := by
  induction entries with
  | nil => simpa [put] using h
  | cons f rest ih =>
    obtain ⟨key, old⟩ := f
    simp only [put] at h
    split at h
    · simpa using h
    · split at h
      · rcases List.mem_cons.1 h with h | h
        · exact .inl h
        · exact .inr (List.mem_cons_of_mem _ h)
      · rcases List.mem_cons.1 h with h | h
        · exact .inr (h ▸ List.mem_cons_self)
        · exact (ih h).imp id (List.mem_cons_of_mem _)

theorem Ascending.put {name : String} {value : α} {entries : List (String × α)}
    (h : Ascending entries) : Ascending (put name value entries) := by
  induction entries with
  | nil => exact List.pairwise_singleton _ _
  | cons f rest ih =>
    obtain ⟨key, old⟩ := f
    obtain ⟨hkey, hrest⟩ := List.pairwise_cons.1 h
    simp only [NameMap.put]
    split
    · rename_i hlt
      refine List.pairwise_cons.2 ⟨fun e he => ?_, h⟩
      rcases List.mem_cons.1 he with rfl | he
      · exact hlt
      · exact String.lt_trans hlt (hkey e he)
    · rename_i hnot
      split
      · rename_i heq
        exact List.pairwise_cons.2 ⟨fun e he => heq ▸ hkey e he, hrest⟩
      · rename_i hne
        refine List.pairwise_cons.2 ⟨fun e he => ?_, ih hrest⟩
        rcases mem_put he with rfl | he
        · exact lt_of_not_lt_of_ne hnot hne
        · exact hkey e he

/-! ## Operations -/

/-- The map without entries. -/
def empty : NameMap α := ⟨[], List.Pairwise.nil⟩

instance : Inhabited (NameMap α) := ⟨empty⟩

/-- The value of a name. -/
def get? (m : NameMap α) (name : String) : Option α := find name m.entries

/-- Whether a name has a value. -/
def contains (m : NameMap α) (name : String) : Bool := (m.get? name).isSome

/-- The map with the value of one name set. -/
def insert (m : NameMap α) (name : String) (value : α) : NameMap α :=
  ⟨put name value m.entries, Ascending.put m.ascending⟩

/-- The map without one name. -/
def erase (m : NameMap α) (name : String) : NameMap α :=
  ⟨m.entries.filter fun e => e.1 ≠ name, m.ascending.filter _⟩

/-- The names that have a value, in ascending order. -/
def names (m : NameMap α) : List String := m.entries.map Prod.fst

/-- The number of names that have a value. -/
def size (m : NameMap α) : Nat := m.entries.length

/-- The map with every value changed. -/
def map (f : String → α → β) (m : NameMap α) : NameMap β :=
  ⟨m.entries.map fun e => (e.1, f e.1 e.2), List.pairwise_map.2 m.ascending⟩

/-- The map of a list of entries; the last of several values of one name counts. -/
def ofList (entries : List (String × α)) : NameMap α :=
  entries.foldl (fun m e => m.insert e.1 e.2) empty

/-! ## The view -/

@[simp] theorem get?_empty (name : String) : (empty : NameMap α).get? name = none := rfl

@[simp] theorem find_put_self (name : String) (value : α) (entries : List (String × α)) :
    find name (put name value entries) = some value := by
  induction entries with
  | nil => simp [put, find]
  | cons f rest ih =>
    obtain ⟨key, old⟩ := f
    simp only [put]
    split
    · simp [find]
    · split
      · simp [find]
      · rename_i hne
        simp [find, Ne.symm hne, ih]

theorem find_put_ne {name other : String} (h : other ≠ name) (value : α)
    (entries : List (String × α)) : find other (put name value entries) = find other entries := by
  induction entries with
  | nil => simp [put, find, Ne.symm h]
  | cons f rest ih =>
    obtain ⟨key, old⟩ := f
    simp only [put]
    split
    · simp [find, Ne.symm h]
    · split
      · rename_i heq
        subst heq
        simp [find, Ne.symm h]
      · simp [find, ih]

@[simp] theorem get?_insert_self (m : NameMap α) (name : String) (value : α) :
    (m.insert name value).get? name = some value := find_put_self _ _ _

theorem get?_insert_ne (m : NameMap α) {name other : String} (h : other ≠ name) (value : α) :
    (m.insert name value).get? other = m.get? other := find_put_ne h _ _

theorem find_eq_none_iff {name : String} {entries : List (String × α)} :
    find name entries = none ↔ name ∉ entries.map Prod.fst := by
  induction entries with
  | nil => simp [find]
  | cons f rest ih =>
    obtain ⟨key, value⟩ := f
    by_cases h : key = name
    · simp [find, h]
    · simp [find, h, ih, Ne.symm h]

theorem mem_names_iff (m : NameMap α) (name : String) :
    name ∈ m.names ↔ (m.get? name).isSome = true := by
  have h : m.get? name = none ↔ name ∉ m.names := find_eq_none_iff
  cases hm : m.get? name with
  | none => simpa using h.1 hm
  | some v =>
    simp only [Option.isSome_some, iff_true]
    exact Decidable.byContradiction fun hn => by simp [h.2 hn] at hm

theorem find_filter_ne {name other : String} (h : other ≠ name) (entries : List (String × α)) :
    find other (entries.filter fun e => e.1 ≠ name) = find other entries := by
  induction entries with
  | nil => rfl
  | cons f rest ih =>
    obtain ⟨key, value⟩ := f
    by_cases hk : key = name
    · subst hk
      simpa [find, Ne.symm h] using ih
    · simp only [ne_eq, hk, not_false_eq_true, decide_true, List.filter_cons_of_pos, find]
      split
      · rfl
      · simpa using ih

@[simp] theorem get?_erase_self (m : NameMap α) (name : String) :
    (m.erase name).get? name = none :=
  find_eq_none_iff.2 (by simp [erase])

theorem get?_erase_ne (m : NameMap α) {name other : String} (h : other ≠ name) :
    (m.erase name).get? other = m.get? other := find_filter_ne h _

theorem find_map (f : String → α → β) (name : String) (entries : List (String × α)) :
    find name (entries.map fun e => (e.1, f e.1 e.2)) = (find name entries).map (f name) := by
  induction entries with
  | nil => rfl
  | cons g rest ih =>
    obtain ⟨key, value⟩ := g
    by_cases hk : key = name
    · subst hk
      simp [find]
    · simpa [find, hk] using ih

@[simp] theorem get?_map (f : String → α → β) (m : NameMap α) (name : String) :
    (m.map f).get? name = (m.get? name).map (f name) := find_map _ _ _

@[simp] theorem names_map (f : String → α → β) (m : NameMap α) : (m.map f).names = m.names := by
  simp [names, map]

/-- The names come in strictly ascending order. -/
theorem names_ascending (m : NameMap α) : m.names.Pairwise (· < ·) :=
  List.pairwise_map.2 m.ascending

theorem nodup_names (m : NameMap α) : m.names.Nodup := by
  refine m.names_ascending.imp ?_
  rintro a _ lt rfl
  exact String.lt_irrefl a lt

/-! ## Entries and the view -/

theorem mem_of_find {name : String} {value : α} {entries : List (String × α)}
    (found : find name entries = some value) : (name, value) ∈ entries := by
  induction entries with
  | nil => cases found
  | cons e rest ih =>
    obtain ⟨key, old⟩ := e
    by_cases eq : key = name
    · rw [find, if_pos eq] at found
      rw [← eq, Option.some.inj found]
      exact List.mem_cons_self
    · rw [find, if_neg eq] at found
      exact List.mem_cons_of_mem _ (ih found)

/-- The name of the first entry is not that of another one. -/
theorem find_rest_of_ascending {name : String} {value : α} {rest : List (String × α)}
    (ascending : Ascending ((name, value) :: rest)) : find name rest = none := by
  refine find_eq_none_iff.2 fun mem => ?_
  obtain ⟨e, later, rfl⟩ := List.mem_map.1 mem
  exact String.lt_irrefl _ ((List.pairwise_cons.1 ascending).1 e later)

theorem find_of_mem {entries : List (String × α)} (ascending : Ascending entries)
    {e : String × α} (mem : e ∈ entries) : find e.1 entries = some e.2 := by
  induction entries with
  | nil => cases mem
  | cons first rest ih =>
    obtain ⟨key, value⟩ := first
    rcases List.mem_cons.1 mem with rfl | mem
    · rw [find, if_pos rfl]
    · have later := (List.pairwise_cons.1 ascending).1 e mem
      rw [find, if_neg fun eq => String.lt_irrefl _ (eq ▸ later)]
      exact ih (List.pairwise_cons.1 ascending).2 mem

/-! ## Maps of lists -/

@[ext] theorem ext {a b : NameMap α} (entries : a.entries = b.entries) : a = b := by
  cases a
  cases b
  cases entries
  rfl

theorem map_id (m : NameMap α) : (m.map fun _ => id) = m := ext (List.map_id m.entries)

/-- The value that is set last counts. -/
theorem put_put (name : String) (value old : α) (entries : List (String × α)) :
    put name value (put name old entries) = put name value entries := by
  have same : ¬name < name := String.lt_irrefl name
  induction entries with
  | nil => rw [put, put, put, if_neg same, if_pos rfl]
  | cons e rest ih =>
    obtain ⟨key, before⟩ := e
    by_cases lt : name < key
    · rw [put, put, if_pos lt, if_pos lt, put, if_neg same, if_pos rfl]
    · by_cases eq : name = key
      · rw [put, put, if_neg lt, if_neg lt, if_pos eq, if_pos eq, put, if_neg same, if_pos rfl]
      · rw [put, put, if_neg lt, if_neg lt, if_neg eq, if_neg eq, put, if_neg lt, if_neg eq, ih]

theorem insert_insert (m : NameMap α) (name : String) (value old : α) :
    (m.insert name old).insert name value = m.insert name value := ext (put_put _ _ _ _)

/-- A value under a name after all others is put at the end. -/
theorem put_last {name : String} {entries : List (String × α)}
    (last : ∀ e ∈ entries, e.1 < name) (value : α) :
    put name value entries = entries ++ [(name, value)] := by
  induction entries with
  | nil => rfl
  | cons e rest ih =>
    obtain ⟨key, old⟩ := e
    have lt : key < name := last _ List.mem_cons_self
    have later : ¬name < key := fun gt => String.lt_irrefl _ (String.lt_trans lt gt)
    have ne : name ≠ key := fun eq => String.lt_irrefl _ (eq ▸ lt)
    rw [put, if_neg later, if_neg ne, ih fun e mem => last e (List.mem_cons_of_mem _ mem)]
    rfl

theorem entries_foldl_insert {m : NameMap α} {rest : List (String × α)}
    (ascending : Ascending (m.entries ++ rest)) :
    (rest.foldl (fun m e => m.insert e.1 e.2) m).entries = m.entries ++ rest := by
  induction rest generalizing m with
  | nil => rw [List.foldl_nil, List.append_nil]
  | cons e rest ih =>
    have last : ∀ f ∈ m.entries, f.1 < e.1 := fun f mem =>
      (List.pairwise_append.1 ascending).2.2 f mem e List.mem_cons_self
    have entries : (m.insert e.1 e.2).entries = m.entries ++ [e] := put_last last e.2
    rw [List.append_cons, ← entries] at ascending
    rw [List.foldl_cons, ih ascending, entries, List.append_assoc, List.singleton_append]

/-- A map is the map of its entries. -/
@[simp] theorem ofList_entries (m : NameMap α) : ofList m.entries = m :=
  ext (entries_foldl_insert (m := empty) m.ascending)

theorem mem_foldl_insert {entries : List (String × α)} {m : NameMap α} {e : String × α}
    (mem : e ∈ (entries.foldl (fun m e => m.insert e.1 e.2) m).entries) :
    e ∈ m.entries ∨ e ∈ entries := by
  induction entries generalizing m with
  | nil => exact .inl mem
  | cons f rest ih =>
    rcases ih mem with before | after
    · rcases mem_put before with rfl | before
      · exact .inr List.mem_cons_self
      · exact .inl before
    · exact .inr (List.mem_cons_of_mem _ after)

/-- Every entry of the map of a list is one of the list. -/
theorem mem_of_mem_ofList {entries : List (String × α)} {e : String × α}
    (mem : e ∈ (ofList entries).entries) : e ∈ entries :=
  (mem_foldl_insert mem).resolve_left List.not_mem_nil

theorem get?_foldl_insert_of_not_mem {entries : List (String × α)} {name : String}
    (unnamed : name ∉ entries.map Prod.fst) (m : NameMap α) :
    (entries.foldl (fun m e => m.insert e.1 e.2) m).get? name = m.get? name := by
  induction entries generalizing m with
  | nil => rfl
  | cons e rest ih =>
    rw [List.map_cons, List.mem_cons, not_or] at unnamed
    rw [List.foldl_cons, ih unnamed.2, get?_insert_ne m unnamed.1]

/-- Of several values of one name, the last one counts. -/
theorem get?_ofList_of_last {before after : List (String × α)} {name : String} {value : α}
    (last : name ∉ after.map Prod.fst) :
    (ofList (before ++ (name, value) :: after)).get? name = some value := by
  rw [ofList, List.foldl_append, List.foldl_cons, get?_foldl_insert_of_not_mem last,
    get?_insert_self]

theorem isSome_get?_foldl_insert (entries : List (String × α)) (m : NameMap α) (name : String) :
    ((entries.foldl (fun m e => m.insert e.1 e.2) m).get? name).isSome = true ↔
      (m.get? name).isSome = true ∨ name ∈ entries.map Prod.fst := by
  induction entries generalizing m with
  | nil => simp
  | cons e rest ih =>
    rw [List.foldl_cons, ih, List.map_cons, List.mem_cons, ← or_assoc]
    refine or_congr_left ?_
    by_cases eq : name = e.1
    · subst eq
      simp
    · simp only [get?_insert_ne m eq, eq, or_false]

/-- The names of the map of a list are those of the list. -/
theorem mem_names_ofList {entries : List (String × α)} {name : String} :
    name ∈ (ofList entries).names ↔ name ∈ entries.map Prod.fst := by
  rw [mem_names_iff, ofList, isSome_get?_foldl_insert]
  simp

end NameMap

end Safeguard
