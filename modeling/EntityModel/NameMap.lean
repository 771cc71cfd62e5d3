/-! # Maps from names

Everything in a model is found by its name, and every map is walked in ascending order of names, so
the same model always gives the same text. `Entries` holds the operations on plain lists of named
values; `NameMap` is such a list together with the proof that its names strictly ascend. -/

namespace EntityModel

universe u v

variable {α : Type u} {β : Type v}

/-! ## Lists of named values -/

namespace Entries

/-- The names strictly ascend; in particular no name occurs twice. -/
def Ascending (entries : List (String × α)) : Prop :=
  entries.Pairwise fun a b => a.1 < b.1

/-- The names of the entries. -/
def names (entries : List (String × α)) : List String := entries.map (·.1)

/-- The value of a name. -/
def find? (name : String) : List (String × α) → Option α
  | [] => none
  | (key, value) :: rest => if key = name then some value else find? name rest

/-- Puts a value under a name, in front of the first greater name and in place of an equal one. -/
def insert (name : String) (value : α) : List (String × α) → List (String × α)
  | [] => [(name, value)]
  | (key, old) :: rest =>
    if name < key then (name, value) :: (key, old) :: rest
    else if name = key then (name, value) :: rest
    else (key, old) :: insert name value rest

/-- The entries in ascending order; of equal names the last one wins. -/
def ofList (entries : List (String × α)) : List (String × α) :=
  entries.foldl (fun acc e => insert e.1 e.2 acc) []

/-- Nothing is found among no entries. -/
@[simp] theorem find?_nil (name : String) : find? name ([] : List (String × α)) = none := rfl

/-- What was inserted under a name is found under it. -/
theorem find?_insert_self (name : String) (value : α) (entries : List (String × α)) :
    find? name (insert name value entries) = some value := by
  induction entries with
  | nil => simp [insert, find?]
  | cons e rest ih =>
    obtain ⟨key, old⟩ := e
    unfold insert
    split
    · simp [find?]
    · split
      · simp [find?]
      · rename_i h; simp [find?, Ne.symm h, ih]

/-- What was inserted under one name changes nothing under the others. -/
theorem find?_insert_of_ne {name other : String} (h : name ≠ other) (value : α)
    (entries : List (String × α)) :
    find? other (insert name value entries) = find? other entries := by
  induction entries with
  | nil => simp [insert, find?, h]
  | cons e rest ih =>
    obtain ⟨key, old⟩ := e
    unfold insert
    split
    · simp [find?, h]
    · split
      · rename_i heq; simp [find?, ← heq, h]
      · simp [find?, ih]

/-- An entry behind an insertion is the new one or was there before. -/
theorem mem_insert {name : String} {value : α} {e : String × α} {entries : List (String × α)}
    (h : e ∈ insert name value entries) : e = (name, value) ∨ e ∈ entries := by
  induction entries with
  | nil => simpa [insert] using h
  | cons e' rest ih =>
    obtain ⟨key, old⟩ := e'
    unfold insert at h
    split at h
    · simpa using h
    · split at h
      · rcases List.mem_cons.1 h with h | h
        · exact .inl h
        · exact .inr (List.mem_cons_of_mem _ h)
      · rcases List.mem_cons.1 h with h | h
        · exact .inr (by simp [h])
        · exact (ih h).imp id (List.mem_cons_of_mem _)

/-- What is found under a name is an entry. -/
theorem mem_of_find? {name : String} {value : α} {entries : List (String × α)}
    (h : find? name entries = some value) : (name, value) ∈ entries := by
  induction entries with
  | nil => simp at h
  | cons e rest ih =>
    obtain ⟨key, old⟩ := e
    by_cases hk : key = name
    · simp_all [find?]
    · simp only [find?, if_neg hk] at h
      exact List.mem_cons_of_mem _ (ih h)

/-- A name under which something is found is among the names. -/
theorem mem_names_of_find? {name : String} {value : α} {entries : List (String × α)}
    (h : find? name entries = some value) : name ∈ names entries :=
  List.mem_map.2 ⟨(name, value), mem_of_find? h, rfl⟩

/-- No entries are in order. -/
theorem ascending_nil : Ascending ([] : List (String × α)) := List.Pairwise.nil

/-- Insertion keeps the names ascending. -/
theorem ascending_insert (name : String) (value : α) {entries : List (String × α)}
    (h : Ascending entries) : Ascending (insert name value entries) := by
  induction entries with
  | nil => simp [insert, Ascending]
  | cons e rest ih =>
    obtain ⟨key, old⟩ := e
    obtain ⟨hkey, hrest⟩ := List.pairwise_cons.1 h
    unfold insert
    split
    · rename_i hlt
      refine List.pairwise_cons.2 ⟨fun e he => ?_, h⟩
      rcases List.mem_cons.1 he with rfl | he
      · exact hlt
      · exact String.lt_trans hlt (hkey e he)
    · split
      · rename_i heq
        exact List.pairwise_cons.2 ⟨fun e he => heq ▸ hkey e he, hrest⟩
      · rename_i hnlt hne
        refine List.pairwise_cons.2 ⟨fun e he => ?_, ih hrest⟩
        rcases mem_insert he with rfl | he
        · rcases String.le_total key name with hle | hle
          · exact String.not_le.1 fun h => hne (String.le_antisymm h hle)
          · exact String.not_le.1 fun h => hne (String.le_antisymm h (String.not_lt.1 hnlt))
        · exact hkey e he

/-- Entries that are inserted one after another are in order. -/
theorem ascending_ofList (entries : List (String × α)) : Ascending (ofList entries) := by
  suffices ∀ acc : List (String × α), Ascending acc →
      Ascending (entries.foldl (fun acc e => insert e.1 e.2 acc) acc) from this [] ascending_nil
  induction entries with
  | nil => exact fun _ h => h
  | cons e rest ih => exact fun acc h => ih _ (ascending_insert _ _ h)

end Entries

/-! ## Maps -/

/-- A finite map from names to values. -/
structure NameMap (α : Type u) where
  /-- The values with their names, in ascending order of names. -/
  entries : List (String × α)
  /-- No name occurs twice, and the order is fixed. -/
  ascending : Entries.Ascending entries

namespace NameMap

/-- The map without entries. -/
def empty : NameMap α := ⟨[], Entries.ascending_nil⟩

/-- The map without entries. -/
instance : EmptyCollection (NameMap α) := ⟨empty⟩

/-- The map without entries is a map. -/
instance : Inhabited (NameMap α) := ⟨empty⟩

/-- The map of a list of entries; of equal names the last one wins. -/
def ofList (entries : List (String × α)) : NameMap α :=
  ⟨Entries.ofList entries, Entries.ascending_ofList entries⟩

/-- Puts a value under a name. -/
def insert (m : NameMap α) (name : String) (value : α) : NameMap α :=
  ⟨Entries.insert name value m.entries, Entries.ascending_insert name value m.ascending⟩

/-- The value of a name. -/
def find? (m : NameMap α) (name : String) : Option α := Entries.find? name m.entries

/-- Whether the name has a value. -/
def contains (m : NameMap α) (name : String) : Bool := (m.find? name).isSome

/-- The names, in ascending order. -/
def names (m : NameMap α) : List String := Entries.names m.entries

/-- The empty map has no entries. -/
@[simp] theorem entries_empty : (∅ : NameMap α).entries = [] := rfl

/-- Nothing is found in the empty map. -/
@[simp] theorem find?_empty (name : String) : (∅ : NameMap α).find? name = none := rfl

/-- What was inserted under a name is found under it. -/
@[simp] theorem find?_insert_self (m : NameMap α) (name : String) (value : α) :
    (m.insert name value).find? name = some value :=
  Entries.find?_insert_self name value m.entries

/-- What was inserted under one name changes nothing under the others. -/
theorem find?_insert_of_ne (m : NameMap α) {name other : String} (h : name ≠ other) (value : α) :
    (m.insert name value).find? other = m.find? other :=
  Entries.find?_insert_of_ne h value m.entries

end NameMap

end EntityModel
