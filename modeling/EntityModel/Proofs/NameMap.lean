import EntityModel.NameMap
import Mathlib.Data.List.Nodup
import Mathlib.Data.List.Perm.Basic
import Mathlib.Data.List.Perm.Subperm

/-! # Reading maps from names

A map and the list of its entries hold the same: a name has a value exactly if the pair of them is
an entry. The map of a list that gives every name one value has the entries of that list. -/

namespace EntityModel

universe u

variable {α : Type u}

/-- A search finds the only element that passes its test. -/
theorem find?_eq_some_of_unique {xs : List α} {q : α → Bool} {x : α} (hx : x ∈ xs)
    (hq : q x = true) (hunique : ∀ y ∈ xs, q y = true → y = x) : xs.find? q = some x := by
  cases hfind : xs.find? q with
  | none => exact absurd hq (List.find?_eq_none.1 hfind x hx)
  | some y => rw [hunique y (List.mem_of_find?_eq_some hfind) (List.find?_some hfind)]

/-- Of distinct elements, a test that only one of them passes leaves that one. -/
theorem filter_eq_singleton_of_nodup {xs : List α} (h : xs.Nodup) {q : α → Bool} {x : α}
    (hx : x ∈ xs) (hq : ∀ y ∈ xs, q y = true ↔ y = x) : xs.filter q = [x] := by
  refine List.perm_singleton.1
    ((List.perm_ext_iff_of_nodup (h.filter q) (List.nodup_singleton x)).2 fun y => ?_)
  rw [List.mem_filter, List.mem_singleton]
  constructor
  · rintro ⟨hy, htest⟩
    exact (hq y hy).1 htest
  · rintro rfl
    exact ⟨hx, (hq y hx).2 rfl⟩

namespace Entries

/-- No name occurs twice. -/
theorem nodup_names {entries : List (String × α)} (h : Ascending entries) :
    (names entries).Nodup := by
  refine List.pairwise_map.2 (h.imp fun {a b} hlt heq => ?_)
  rw [heq] at hlt
  exact String.lt_irrefl _ hlt

/-- Of distinct names, the value of one is the one it stands beside. -/
theorem find?_eq_some_iff {entries : List (String × α)} (h : (names entries).Nodup) {name : String}
    {value : α} : find? name entries = some value ↔ (name, value) ∈ entries := by
  refine ⟨mem_of_find?, fun hmem => ?_⟩
  induction entries with
  | nil => exact absurd hmem List.not_mem_nil
  | cons e rest ih =>
    obtain ⟨key, old⟩ := e
    obtain ⟨hkey, hrest⟩ := List.nodup_cons.1 h
    rcases List.mem_cons.1 hmem with heq | hmem
    · cases heq
      simp [find?]
    · have hne : key ≠ name := by
        rintro rfl
        exact hkey (List.mem_map.2 ⟨(key, value), hmem, rfl⟩)
      rw [find?, if_neg hne]
      exact ih hrest hmem

/-- Inserting under a name adds this name and no other one. -/
theorem mem_names_insert {name other : String} {value : α} {entries : List (String × α)} :
    other ∈ names (insert name value entries) ↔ other = name ∨ other ∈ names entries := by
  induction entries with
  | nil => simp [insert, names]
  | cons e rest ih =>
    obtain ⟨key, old⟩ := e
    unfold insert
    split
    · simp [names]
    · split
      · rename_i heq
        subst heq
        simp [names]
      · simp only [names, List.map_cons, List.mem_cons] at ih ⊢
        rw [ih]
        tauto

/-- A new name is put somewhere between the others. -/
theorem exists_insert_eq_append {name : String} {entries : List (String × α)}
    (h : name ∉ names entries) (value : α) : ∃ before after, entries = before ++ after ∧
      insert name value entries = before ++ (name, value) :: after := by
  induction entries with
  | nil => exact ⟨[], [], rfl, rfl⟩
  | cons e rest ih =>
    obtain ⟨key, old⟩ := e
    obtain ⟨hkey, hrest⟩ : name ≠ key ∧ name ∉ names rest := not_or.1 (List.mem_cons.not.1 h)
    rw [insert, if_neg hkey]
    split
    · exact ⟨[], _, rfl, rfl⟩
    · obtain ⟨before, after, rfl, hinsert⟩ := ih hrest
      exact ⟨(key, old) :: before, after, rfl, by rw [hinsert]; rfl⟩

/-- What is not found among some entries is looked for among those behind them. -/
theorem find?_append {name : String} {entries others : List (String × α)} :
    find? name (entries ++ others) = (find? name entries).or (find? name others) := by
  induction entries with
  | nil => rfl
  | cons e rest ih =>
    obtain ⟨key, value⟩ := e
    by_cases h : key = name <;> simp [find?, h, ih]

/-- Nothing is found under exactly those names that are not among the names. -/
theorem find?_eq_none_iff {name : String} {entries : List (String × α)} :
    find? name entries = none ↔ name ∉ names entries := by
  induction entries with
  | nil => simp [names]
  | cons e rest ih =>
    obtain ⟨key, value⟩ := e
    by_cases h : key = name
    · simp [find?, names, h]
    · simpa [find?, names, h, Ne.symm h] using ih

/-- Of several values of a name the last one is kept. -/
theorem find?_ofList (name : String) (entries : List (String × α)) :
    find? name (ofList entries) = find? name entries.reverse := by
  rw [ofList, List.foldl_eq_foldr_reverse]
  induction entries.reverse with
  | nil => rfl
  | cons e rest ih =>
    obtain ⟨key, value⟩ := e
    rw [List.foldr_cons]
    by_cases h : key = name
    · rw [h, find?_insert_self, find?, if_pos rfl]
    · rw [find?_insert_of_ne h, ih, find?, if_neg h]

/-- The value of a name is kept if no entry of the name stands behind it. -/
theorem find?_ofList_of_notMem {before after : List (String × α)} {name : String} {value : α}
    (h : name ∉ names after) :
    find? name (ofList (before ++ (name, value) :: after)) = some value := by
  have hafter : find? name after.reverse = none := by
    rw [find?_eq_none_iff, names, List.map_reverse, List.mem_reverse]
    exact h
  rw [find?_ofList, List.reverse_append, List.reverse_cons, List.append_assoc, find?_append, hafter]
  simp [find?]

/-- The list gives every name one value. -/
def Functional (entries : List (String × α)) : Prop :=
  ∀ e ∈ entries, ∀ e' ∈ entries, e.1 = e'.1 → e = e'

/-- Entries with different names give every name one value. -/
theorem functional_of_nodup {entries : List (String × α)} (h : (names entries).Nodup) :
    Functional entries := by
  intro e he e' he' heq
  exact List.inj_on_of_nodup_map h he he' heq

/-- Entries that are inserted one after another are no others. -/
theorem mem_ofList {entries : List (String × α)} {e : String × α} (h : e ∈ ofList entries) :
    e ∈ entries := by
  suffices ∀ acc : List (String × α), e ∈ entries.foldl (fun acc e => insert e.1 e.2 acc) acc →
      e ∈ acc ∨ e ∈ entries from (this [] h).resolve_left List.not_mem_nil
  clear h
  induction entries with
  | nil => exact fun _ h => .inl h
  | cons e₀ rest ih =>
    intro acc h
    rcases ih _ h with h | h
    · rcases mem_insert h with rfl | h
      · exact .inr List.mem_cons_self
      · exact .inl h
    · exact .inr (List.mem_cons_of_mem _ h)

/-- Entries that are inserted one after another keep all their names. -/
theorem mem_names_ofList {entries : List (String × α)} {name : String} :
    name ∈ names (ofList entries) ↔ name ∈ names entries := by
  suffices ∀ acc : List (String × α),
      name ∈ names (entries.foldl (fun acc e => insert e.1 e.2 acc) acc) ↔
        name ∈ names acc ∨ name ∈ names entries by simpa [ofList, names] using this []
  induction entries with
  | nil => simp [names]
  | cons e rest ih =>
    intro acc
    rw [List.foldl_cons, ih, mem_names_insert]
    simp only [names, List.map_cons, List.mem_cons]
    tauto

/-- Where every name has one value, sorting the entries loses none of them. -/
theorem mem_ofList_iff {entries : List (String × α)} (h : Functional entries) {e : String × α} :
    e ∈ ofList entries ↔ e ∈ entries := by
  refine ⟨mem_ofList, fun he => ?_⟩
  obtain ⟨e', he', hname⟩ := List.mem_map.1 (mem_names_ofList.2 (List.mem_map.2 ⟨e, he, rfl⟩))
  exact h e' (mem_ofList he') e he hname ▸ he'

/-- Sorting entries of distinct names only changes their order. -/
theorem ofList_perm {entries : List (String × α)} (h : (names entries).Nodup) :
    (ofList entries).Perm entries :=
  (List.perm_ext_iff_of_nodup (nodup_names (ascending_ofList entries)).of_map h.of_map).2
    fun _ => mem_ofList_iff (functional_of_nodup h)

/-- Sorting entries loses none of them exactly if their names are distinct. -/
theorem length_ofList_eq_iff {entries : List (String × α)} :
    (ofList entries).length = entries.length ↔ (names entries).Nodup := by
  refine ⟨fun hlength => ?_, fun h => (ofList_perm h).length_eq⟩
  have hnodup := nodup_names (ascending_ofList entries)
  have hsubperm := hnodup.subperm fun name hname => mem_names_ofList.1 hname
  have hperm := hsubperm.perm_of_length_le (by simp [names, hlength])
  exact hperm.nodup_iff.1 hnodup

/-- Where every name has one value, the order of the entries does not matter for sorting them. -/
theorem ofList_eq_of_perm {entries order : List (String × α)} (h : Functional entries)
    (hperm : order.Perm entries) : ofList order = ofList entries := by
  have horder : Functional order := fun e he e' he' =>
    h e (hperm.mem_iff.1 he) e' (hperm.mem_iff.1 he')
  have hasc := ascending_ofList entries
  have hasc' := ascending_ofList order
  have hsame : (ofList order).Perm (ofList entries) :=
    (List.perm_ext_iff_of_nodup (nodup_names hasc').of_map (nodup_names hasc).of_map).2 fun e => by
      rw [mem_ofList_iff horder, mem_ofList_iff h, hperm.mem_iff]
  refine hsame.eq_of_pairwise (fun a b _ _ hlt hgt => ?_) hasc' hasc
  exact absurd hgt (String.lt_asymm hlt)

end Entries

namespace NameMap

variable {m : NameMap α} {name : String} {value : α}

/-- No name of a map is there twice. -/
theorem nodup_names (m : NameMap α) : m.names.Nodup := Entries.nodup_names m.ascending

/-- A value is found under a name exactly if the two are an entry. -/
theorem find?_eq_some_iff : m.find? name = some value ↔ (name, value) ∈ m.entries :=
  Entries.find?_eq_some_iff m.nodup_names

/-- A map contains exactly its names. -/
theorem contains_iff : m.contains name = true ↔ name ∈ m.names := by
  rw [contains, Option.isSome_iff_exists]
  constructor
  · rintro ⟨value, h⟩
    exact Entries.mem_names_of_find? h
  · intro h
    obtain ⟨⟨key, value⟩, hmem, rfl⟩ := List.mem_map.1 h
    exact ⟨value, find?_eq_some_iff.2 hmem⟩

end NameMap

end EntityModel
