import EntityModel.Proofs.Relational.Turns

/-! # Tables that stand alone

A table without foreign keys, to which no other one refers, can be created at any time. The order of
creation takes it as soon as its name comes up, even where the others would have to break a circle,
and creates the others as if it were not there (`exists_creationOrder_insert`). -/

namespace EntityModel.Relational.Table

/-- The table has no foreign keys, and none of the tables refers to it. -/
structure IsLoose (tables : List Table) (t : Table) : Prop where
  /-- It refers to nothing. -/
  foreignKeys_eq : t.foreignKeys = []
  /-- Nothing refers to it. -/
  references_ne : ∀ u ∈ tables, ∀ key ∈ u.foreignKeys, key.references ≠ t.name

namespace IsLoose

variable {tables : List Table} {t u : Table} (h : IsLoose tables t)

include h

/-- A table that is loose among some tables is so among fewer. -/
theorem mono {others : List Table} (hothers : ∀ u ∈ others, u ∈ tables) : IsLoose others t :=
  ⟨h.foreignKeys_eq, fun u hu => h.references_ne u (hothers u hu)⟩

/-- A loose table is ready at any time. -/
theorem isReady (others : List Table) : isReady others t = true :=
  isReady_iff.2 fun _ hkey => absurd (h.foreignKeys_eq ▸ hkey) List.not_mem_nil

/-- A loose table has no key to mark. -/
theorem markForward_eq (later : List Table) : t.markForward later = t := by
  rw [markForward, h.foreignKeys_eq]
  have hkeys := h.foreignKeys_eq
  cases t
  cases hkeys
  rfl

/-- Without it the same of the other tables are ready. -/
theorem isReady_without (hu : u ∈ tables) (others : List Table) :
    Table.isReady (without others t.name) u = Table.isReady others u := by
  rw [Bool.eq_iff_iff, isReady_iff, isReady_iff]
  refine forall₂_congr fun key hkey => or_congr_right (not_congr ?_)
  rw [mem_names_without, and_iff_right (h.references_ne u hu key hkey)]

/-- Without it the same foreign keys are marked. -/
theorem markForward_without (hu : u ∈ tables) (later : List Table) :
    u.markForward (without later t.name) = u.markForward later := by
  have hkeys : ∀ key ∈ u.foreignKeys,
      exists? (without later t.name) key.references = exists? later key.references := by
    intro key hkey
    rw [Bool.eq_iff_iff, exists?_iff, exists?_iff, mem_names_without,
      and_iff_right (h.references_ne u hu key hkey)]
  rw [markForward, markForward, List.map_congr_left fun key hkey => by rw [hkeys key hkey]]

/-- Where another table comes first, it comes first without it, too. -/
theorem pick?_without (ht : t ∈ tables) (hpick : pick? tables = some u) (hne : u.name ≠ t.name) :
    pick? (without tables t.name) = some u := by
  -- The table itself is ready, so the one that comes first was chosen for being ready.
  have hfind : tables.find? (Table.isReady tables) = some u := by
    cases hready : tables.find? (Table.isReady tables) with
    | none => exact absurd (h.isReady tables) (List.find?_eq_none.1 hready t ht)
    | some v =>
      rw [pick?, hready, Option.some_or] at hpick
      exact hpick
  obtain ⟨hready, before, after, htables, hbefore⟩ := List.find?_eq_some_iff_append.1 hfind
  have hrest : without tables t.name = without before t.name ++ u :: without after t.name := by
    rw [htables, without, List.filter_append, List.filter_cons_of_pos (by simpa using hne)]
    rfl
  have hfindRest : (without tables t.name).find? (Table.isReady (without tables t.name)) =
      some u := by
    refine List.find?_eq_some_iff_append.2 ⟨?_, _, _, hrest, fun v hv => ?_⟩
    · rwa [h.isReady_without (List.mem_of_find?_eq_some hfind)]
    · have hv' := (List.mem_filter.1 hv).1
      rw [h.isReady_without (htables ▸ List.mem_append_left _ hv')]
      exact hbefore v hv'
  rw [pick?, hfindRest, Option.some_or]

/-- The tables are created in the same order without it, and with the same marks. -/
theorem exists_creationOrderOf (hnodup : (tables.map (·.name)).Nodup) (ht : t ∈ tables) :
    ∃ before after, creationOrderOf (without tables t.name) = before ++ after ∧
      creationOrderOf tables = before ++ t :: after := by
  fun_induction creationOrderOf tables with
  | case1 tables hpick =>
    rw [pick?_eq_none_iff.1 hpick] at ht
    exact absurd ht List.not_mem_nil
  | case2 tables u hpick ih =>
    have hu := mem_of_pick? hpick
    by_cases hname : u.name = t.name
    · -- It is the turn of the table itself, and behind it nothing changes.
      obtain rfl : u = t := List.inj_on_of_nodup_map hnodup hu ht hname
      exact ⟨[], _, rfl, by rw [h.markForward_eq, List.nil_append]⟩
    · -- It is the turn of the same table as without it.
      have hcomm :
          without (without tables u.name) t.name = without (without tables t.name) u.name :=
        List.filter_comm ..
      obtain ⟨before, after, hrest, horder⟩ := ih (h.mono fun v hv => (List.mem_filter.1 hv).1)
        (nodup_names_without hnodup _) (List.mem_filter.2 ⟨ht, by simpa using Ne.symm hname⟩)
      refine ⟨u.markForward (without tables u.name) :: before, after, ?_, by rw [horder]; rfl⟩
      rw [creationOrderOf, h.pick?_without ht hpick hname]
      dsimp only
      rw [← hcomm, hrest, h.markForward_without hu]
      rfl

end IsLoose

/-! ## Adding a table -/

/-- In ascending order of names, there is one list of the same tables. -/
theorem eq_of_perm_of_pairwise {tables others : List Table} (hperm : tables.Perm others)
    (h : tables.Pairwise fun t u => t.name < u.name)
    (hothers : others.Pairwise fun t u => t.name < u.name) : tables = others :=
  hperm.eq_of_pairwise (fun _ _ _ _ hlt hgt => absurd hgt (String.lt_asymm hlt)) h hothers

/-- Without a table those in front of it and behind it are left. -/
theorem without_append_cons {front back : List Table} {t : Table}
    (hnodup : ((front ++ t :: back).map (·.name)).Nodup) :
    without (front ++ t :: back) t.name = front ++ back := by
  rw [List.map_append, List.map_cons, List.nodup_middle] at hnodup
  have hnames : ∀ u ∈ front ++ back, u.name ≠ t.name := fun u hu heq =>
    (List.nodup_cons.1 hnodup).1 (heq ▸ List.map_append ▸ List.mem_map.2 ⟨u, hu, rfl⟩)
  rw [without, List.filter_append, List.filter_cons_of_neg (by simp), ← List.filter_append,
    List.filter_eq_self]
  simpa using hnames

/-- A table that stands alone is one more in the order of creation, and changes nothing else. -/
theorem exists_creationOrder_insert {front back : List Table} {t : Table}
    (hnodup : ((front ++ t :: back).map (·.name)).Nodup) (h : IsLoose (front ++ t :: back) t) :
    ∃ before after, creationOrder (front ++ back) = before ++ after ∧
      creationOrder (front ++ t :: back) = before ++ t :: after := by
  have hwithout := without_append_cons hnodup
  have hothers : ((front ++ back).map (·.name)).Nodup :=
    hwithout ▸ nodup_names_without hnodup t.name
  have hsorted := sorted_perm hnodup
  have hperm : List.Perm _ (without (front ++ t :: back) t.name) := hsorted.filter _
  rw [hwithout] at hperm
  -- Sorting the other tables is the same as taking the table out of the sorted ones.
  have hrest := eq_of_perm_of_pairwise (hperm.trans (sorted_perm hothers).symm)
    ((pairwise_sorted (front ++ t :: back)).filter fun u => u.name ≠ t.name)
    (pairwise_sorted (front ++ back))
  have hloose := h.mono fun u hu => hsorted.mem_iff.1 hu
  obtain ⟨before, after, hbefore, horder⟩ := hloose.exists_creationOrderOf
    (nodup_names_sorted hnodup) (hsorted.mem_iff.2 (by simp))
  refine ⟨before, after, ?_, horder⟩
  rw [creationOrder, ← hrest]
  exact hbefore

end EntityModel.Relational.Table
