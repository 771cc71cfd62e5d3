import EntityModel.Relational.CreationOrder
import EntityModel.Proofs.NameMap

/-! # Properties of the order of creation

Ordering tables of distinct names keeps all of them, and changes nothing but the marks of their
foreign keys (`map_unmarked_creationOrder`). A foreign key is marked as forward exactly if it leads
to another table that is created later (`forward_iff_later`). -/

namespace EntityModel.Relational

/-- The foreign key without the mark. -/
def ForeignKey.unmarked (key : ForeignKey) : ForeignKey := { key with forward := false }

namespace Table

/-! ## Tables without marks -/

/-- The table with no foreign key marked as forward. -/
def unmarked (t : Table) : Table :=
  { t with foreignKeys := t.foreignKeys.map ForeignKey.unmarked }

/-- Marking keys leaves the name of a table. -/
@[simp] theorem name_markForward (t : Table) (later : List Table) :
    (t.markForward later).name = t.name := rfl

/-- Marking keys changes nothing else about a table. -/
@[simp] theorem unmarked_markForward (t : Table) (later : List Table) :
    (t.markForward later).unmarked = t.unmarked := by
  simp only [unmarked, markForward, List.map_map]
  rfl

/-- Tables without marks have the same names. -/
theorem map_name_unmarked (tables : List Table) :
    (tables.map unmarked).map (·.name) = tables.map (·.name) := by
  rw [List.map_map]
  rfl

/-! ## Tables that remain -/

/-- A table exists if its name is among those of the tables. -/
theorem exists?_iff {tables : List Table} {name : String} :
    exists? tables name = true ↔ name ∈ tables.map (·.name) := by
  simp [exists?]

/-- Of distinct names, taking one table out leaves the others. -/
theorem perm_cons_without {tables : List Table} (h : (tables.map (·.name)).Nodup) {t : Table}
    (ht : t ∈ tables) : tables.Perm (t :: without tables t.name) := by
  have hnodup : (t :: without tables t.name).Nodup :=
    List.nodup_cons.2 ⟨fun hmem => by simp [without] at hmem, h.of_map.filter _⟩
  refine (List.perm_ext_iff_of_nodup h.of_map hnodup).2 fun u => ?_
  rw [List.mem_cons, without, List.mem_filter, decide_eq_true_iff]
  constructor
  · intro hu
    by_cases hname : u.name = t.name
    · exact .inl (List.inj_on_of_nodup_map h hu ht hname)
    · exact .inr ⟨hu, hname⟩
  · rintro (rfl | ⟨hu, -⟩)
    · exact ht
    · exact hu

/-- Without a table the others still have different names. -/
theorem nodup_names_without {tables : List Table} (h : (tables.map (·.name)).Nodup)
    (name : String) : ((without tables name).map (·.name)).Nodup :=
  h.sublist (List.filter_sublist.map _)

/-- There is a table to create first unless there is no table left. -/
theorem pick?_eq_none_iff {tables : List Table} : pick? tables = none ↔ tables = [] := by
  constructor
  · intro h
    rw [pick?, Option.or_eq_none_iff, Option.or_eq_none_iff, List.head?_eq_none_iff] at h
    exact h.2.2
  · rintro rfl
    rfl

/-! ## The order -/

/-- Ordering tables keeps them, apart from their marks. -/
theorem map_unmarked_creationOrderOf {tables : List Table} (h : (tables.map (·.name)).Nodup) :
    ((creationOrderOf tables).map unmarked).Perm (tables.map unmarked) := by
  fun_induction creationOrderOf tables with
  | case1 tables hpick => rw [pick?_eq_none_iff.1 hpick]
  | case2 tables t hpick ih =>
    rw [List.map_cons, unmarked_markForward]
    have hrest := (ih (nodup_names_without h _)).cons t.unmarked
    exact hrest.trans ((perm_cons_without h (mem_of_pick? hpick)).map unmarked).symm

/-- The order of creation has the names of the tables. -/
theorem map_name_creationOrderOf {tables : List Table} (h : (tables.map (·.name)).Nodup) :
    ((creationOrderOf tables).map (·.name)).Perm (tables.map (·.name)) := by
  have hperm := (map_unmarked_creationOrderOf h).map (·.name)
  rwa [map_name_unmarked, map_name_unmarked] at hperm

/-- A foreign key is marked as forward exactly if it leads to another table that comes later. -/
theorem forward_iff_of_creationOrderOf {tables before after : List Table} {t : Table}
    (h : (tables.map (·.name)).Nodup) (horder : creationOrderOf tables = before ++ t :: after)
    {key : ForeignKey} (hkey : key ∈ t.foreignKeys) :
    key.forward = true ↔ key.references ≠ t.name ∧ key.references ∈ after.map (·.name) := by
  fun_induction creationOrderOf tables generalizing before with
  | case1 tables hpick => simp at horder
  | case2 tables first hpick ih =>
    have hrest := nodup_names_without h first.name
    match before with
    | [] =>
      rw [List.nil_append, List.cons.injEq] at horder
      obtain ⟨rfl, rfl⟩ := horder
      obtain ⟨original, -, rfl⟩ := List.mem_map.1 hkey
      rw [Bool.and_eq_true, decide_eq_true_iff, exists?_iff, name_markForward,
        (map_name_creationOrderOf hrest).mem_iff]
    | u :: before =>
      rw [List.cons_append, List.cons.injEq] at horder
      exact ih hrest horder.2

/-! ## Sorting before ordering -/

/-- Tables that are sorted by name are the same tables. -/
theorem sorted_perm {tables : List Table} (h : (tables.map (·.name)).Nodup) :
    ((NameMap.ofList (tables.map fun t => (t.name, t))).entries.map (·.2)).Perm tables := by
  have hnames : (Entries.names (tables.map fun t => (t.name, t))).Nodup := by
    rw [Entries.names, List.map_map]
    exact h
  have hvalues : (tables.map fun t => (t.name, t)).map (·.2) = tables := by
    rw [List.map_map]
    exact List.map_id' tables
  have hperm := (Entries.ofList_perm hnames).map (·.2)
  rw [hvalues] at hperm
  exact hperm

/-- Tables that are sorted by name have different names. -/
theorem nodup_names_sorted {tables : List Table} (h : (tables.map (·.name)).Nodup) :
    (((NameMap.ofList (tables.map fun t => (t.name, t))).entries.map (·.2)).map (·.name)).Nodup :=
  ((sorted_perm h).map (·.name)).nodup_iff.2 h

/-- The order of creation keeps the tables, apart from their marks. -/
theorem map_unmarked_creationOrder {tables : List Table} (h : (tables.map (·.name)).Nodup) :
    ((creationOrder tables).map unmarked).Perm (tables.map unmarked) :=
  (map_unmarked_creationOrderOf (nodup_names_sorted h)).trans ((sorted_perm h).map unmarked)

/-- The order of creation has the names of the tables. -/
theorem map_name_creationOrder {tables : List Table} (h : (tables.map (·.name)).Nodup) :
    ((creationOrder tables).map (·.name)).Perm (tables.map (·.name)) := by
  have hperm := (map_unmarked_creationOrder h).map (·.name)
  rwa [map_name_unmarked, map_name_unmarked] at hperm

/-- In the order of creation, a foreign key is marked as forward exactly if it leads to another
table that comes later. -/
theorem forward_iff_later {tables before after : List Table} {t : Table}
    (h : (tables.map (·.name)).Nodup) (horder : creationOrder tables = before ++ t :: after)
    {key : ForeignKey} (hkey : key ∈ t.foreignKeys) :
    key.forward = true ↔ key.references ≠ t.name ∧ key.references ∈ after.map (·.name) :=
  forward_iff_of_creationOrderOf (nodup_names_sorted h) horder hkey

end Table

end EntityModel.Relational
