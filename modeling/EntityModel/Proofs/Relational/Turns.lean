import EntityModel.Proofs.Relational.Cycles

/-! # Whose turn it is

A table is created when everything that it refers to is there, the one with the smallest name first.
Where none is ready, the tables that are left all lead on to each other, so that some of them are on
a circle, and the first of these is created before its turn. Only such tables have foreign keys that
are marked as forward (`isCreationOrder_creationOrder`). -/

namespace EntityModel.Relational.Table

open Relation

/-! ## Turns -/

/-- Everything that the table refers to is there: each key leads to the table itself, to one of the
tables in front of it, or to none of the tables at all. -/
def ReadyAfter (tables before : List Table) (t : Table) : Prop :=
  ∀ key ∈ t.foreignKeys, key.references = t.name ∨ key.references ∈ before.map (·.name) ∨
    key.references ∉ tables.map (·.name)

/-- Of the tables that pass, the table has the smallest name. -/
def IsFirst (tables : List Table) (P : Table → Prop) (t : Table) : Prop :=
  t ∈ tables ∧ P t ∧ ∀ u ∈ tables, P u → t.name ≤ u.name

/-- It is the turn of the table, with some tables in front of it and some left behind it: it is the
first one that is ready, or none is ready and it is the first one on a circle. -/
def IsTurn (tables before : List Table) (t : Table) (after : List Table) : Prop :=
  IsFirst (t :: after) (ReadyAfter tables before) t ∨
    ((∀ u ∈ t :: after, ¬ReadyAfter tables before u) ∧
      IsFirst (t :: after) (fun u => OnCycle (t :: after) u.name) t)

/-- The tables in an order in which they can be created. -/
structure IsCreationOrder (tables order : List Table) : Prop where
  /-- The tables are the same, apart from the marks of their keys. -/
  perm : (order.map unmarked).Perm (tables.map unmarked)
  /-- A key is marked if it leads to another table that comes later. -/
  forward_iff : ∀ before t after, order = before ++ t :: after → ∀ key ∈ t.foreignKeys,
    (key.forward = true ↔ key.references ≠ t.name ∧ key.references ∈ after.map (·.name))
  /-- Every table is created at its turn. -/
  turn : ∀ before t after, order = before ++ t :: after → IsTurn tables before t after
  /-- A table with a marked key is on a circle. -/
  onCycle : ∀ t ∈ order, ∀ key ∈ t.foreignKeys, key.forward = true → OnCycle tables t.name
  /-- Without a circle no key is marked. -/
  unmarked : (∀ name, ¬OnCycle tables name) →
    ∀ t ∈ order, ∀ key ∈ t.foreignKeys, key.forward = false

/-! ## Choosing a table -/

/-- Names that ascend are different. -/
theorem nodup_names_of_pairwise {tables : List Table}
    (h : tables.Pairwise fun t u => t.name < u.name) : (tables.map (·.name)).Nodup := by
  refine List.pairwise_map.2 (h.imp fun {t u} hlt heq => ?_)
  rw [heq] at hlt
  exact String.lt_irrefl _ hlt

/-- In ascending order of names, the first table that passes is the one with the smallest name. -/
theorem isFirst_of_find? {tables : List Table} (h : tables.Pairwise fun t u => t.name < u.name)
    {q : Table → Bool} {t : Table} (hfind : tables.find? q = some t) :
    IsFirst tables (fun u => q u = true) t := by
  obtain ⟨hq, before, after, rfl, hbefore⟩ := List.find?_eq_some_iff_append.1 hfind
  refine ⟨by simp, hq, fun u hu hpass => ?_⟩
  have hlater := (List.pairwise_cons.1 (List.pairwise_append.1 h).2.1).1
  rcases List.mem_append.1 hu with hu | hu
  · -- No table in front of it passes.
    have hfails := hbefore u hu
    rw [hpass] at hfails
    cases hfails
  · rcases List.mem_cons.1 hu with rfl | hu
    · exact String.le_refl _
    · exact Std.le_of_lt (hlater u hu)

/-- A table is ready if its keys refer to itself, or to none of the tables that are left. -/
theorem isReady_iff {tables : List Table} {t : Table} :
    isReady tables t = true ↔
      ∀ key ∈ t.foreignKeys, key.references = t.name ∨ key.references ∉ tables.map (·.name) := by
  rw [isReady, List.all_eq_true]
  constructor
  · intro h key hkey
    by_cases hself : key.references = t.name
    · exact .inl hself
    · have hmissing := h key.references (mem_neighbours_iff.2 ⟨hself, key, hkey, rfl⟩)
      refine .inr fun hmem => ?_
      rw [exists?_iff.2 hmem] at hmissing
      cases hmissing
  · intro h name hname
    obtain ⟨hne, key, hkey, rfl⟩ := mem_neighbours_iff.1 hname
    have hmissing := (h key hkey).resolve_left hne
    rw [Bool.not_eq_true', ← Bool.not_eq_true, exists?_iff]
    exact hmissing

/-- A table that is not ready leads on to another one. -/
theorem exists_leads_of_not_isReady {tables : List Table} {t : Table} (ht : t ∈ tables)
    (h : ¬isReady tables t = true) : ∃ b, Leads tables t.name b := by
  rw [isReady_iff] at h
  push Not at h
  obtain ⟨key, hkey, hne, hmem⟩ := h
  exact ⟨key.references, t, ht, rfl, mem_neighbours_iff.2 ⟨hne, key, hkey, rfl⟩, hmem⟩

/-- Where no table is ready, every one of them leads to a circle. -/
theorem exists_onCycle_of_stuck {tables : List Table} (h : ∀ u ∈ tables, ¬isReady tables u = true)
    {name : String} (hname : name ∈ tables.map (·.name)) :
    ∃ c, ReflTransGen (Leads tables) name c ∧ OnCycle tables c := by
  refine exists_onCycle (fun a ha => ?_) hname
  obtain ⟨u, hu, rfl⟩ := List.mem_map.1 ha
  exact exists_leads_of_not_isReady hu (h u hu)

/-- The table to create first is the first one that is ready, or none is ready and it is the first
one on a circle: there always is one. -/
theorem pick?_eq_some {tables : List Table} (h : tables.Pairwise fun t u => t.name < u.name)
    {t : Table} (hpick : pick? tables = some t) :
    IsFirst tables (fun u => isReady tables u = true) t ∨
      ((∀ u ∈ tables, ¬isReady tables u = true) ∧
        IsFirst tables (fun u => OnCycle tables u.name) t) := by
  have hnodup := nodup_names_of_pairwise h
  have ht := mem_of_pick? hpick
  unfold pick? at hpick
  cases hready : tables.find? (isReady tables) with
  | some u =>
    rw [hready, Option.some_or, Option.some.injEq] at hpick
    exact .inl (hpick ▸ isFirst_of_find? h hready)
  | none =>
    have hstuck : ∀ u ∈ tables, ¬isReady tables u = true := List.find?_eq_none.1 hready
    -- Some table is on a circle, so the search for one succeeds.
    obtain ⟨c, -, hc⟩ := exists_onCycle_of_stuck hstuck (List.mem_map.2 ⟨t, ht, rfl⟩)
    obtain ⟨v, hv, rfl⟩ := List.mem_map.1 hc.mem
    cases hcycle : tables.find? (inCycle tables) with
    | some u =>
      rw [hready, hcycle, Option.none_or, Option.some_or, Option.some.injEq] at hpick
      subst hpick
      obtain ⟨hu, hon, hleast⟩ := isFirst_of_find? h hcycle
      exact .inr ⟨hstuck, hu, (inCycle_iff hnodup hu).1 hon,
        fun w hw hwon => hleast w hw ((inCycle_iff hnodup hw).2 hwon)⟩
    | none => exact absurd ((inCycle_iff hnodup hv).2 hc) (List.find?_eq_none.1 hcycle v hv)

/-! ## Turns one after another -/

/-- What is created from a table on is the order of the tables that were left. -/
theorem exists_remaining {tables before after : List Table} {t : Table}
    (horder : creationOrderOf tables = before ++ t :: after) :
    ∃ rest, rest.Sublist tables ∧ creationOrderOf rest = t :: after := by
  fun_induction creationOrderOf tables generalizing before with
  | case1 tables hpick => simp at horder
  | case2 tables first hpick ih =>
    cases before with
    | nil =>
      refine ⟨tables, List.Sublist.refl _, ?_⟩
      rw [creationOrderOf, hpick]
      exact horder
    | cons u before =>
      rw [List.cons_append, List.cons.injEq] at horder
      obtain ⟨rest, hsublist, hrest⟩ := ih horder.2
      exact ⟨rest, hsublist.trans List.filter_sublist, hrest⟩

/-- The first table in the order is the one that is chosen, apart from its marks. -/
theorem exists_pick?_of_cons {tables after : List Table} {t : Table}
    (h : creationOrderOf tables = t :: after) :
    ∃ s, pick? tables = some s ∧ t.unmarked = s.unmarked := by
  rw [creationOrderOf] at h
  split at h
  · cases h
  · rename_i s hpick
    rw [List.cons.injEq] at h
    exact ⟨s, hpick, h.1 ▸ unmarked_markForward s _⟩

/-- Marks do not matter for what is first. -/
theorem IsFirst.of_unmarked {tables others : List Table} {P Q : Table → Prop} {s t : Table}
    (h : IsFirst tables P s) (hperm : (others.map unmarked).Perm (tables.map unmarked))
    (hsame : t.unmarked = s.unmarked) (ht : t ∈ others)
    (hiff : ∀ u v : Table, u.unmarked = v.unmarked → (Q u ↔ P v)) : IsFirst others Q t := by
  have hname : ∀ {u v : Table}, u.unmarked = v.unmarked → u.name = v.name :=
    fun h => congrArg (·.name) h
  obtain ⟨-, hs, hleast⟩ := h
  refine ⟨ht, (hiff t s hsame).2 hs, fun u hu hpass => ?_⟩
  obtain ⟨v, hv, huv⟩ := List.mem_map.1 (hperm.mem_iff.1 (List.mem_map.2 ⟨u, hu, rfl⟩))
  rw [hname hsame, hname huv.symm]
  exact hleast v hv ((hiff u v huv.symm).1 hpass)

/-- With the tables in front of it created, a table is ready if it refers to none of those left. -/
theorem readyAfter_iff_isReady {tables before rest : List Table}
    (hnodup : (tables.map (·.name)).Nodup)
    (hnames : (tables.map (·.name)).Perm (before.map (·.name) ++ rest.map (·.name)))
    {u v : Table} (hsame : u.unmarked = v.unmarked) :
    ReadyAfter tables before u ↔ isReady rest v = true := by
  -- A name is free of the tables that are left if it is created already or no table's name at all.
  have hleft : ∀ name, name ∉ rest.map (·.name) ↔
      name ∈ before.map (·.name) ∨ name ∉ tables.map (·.name) := by
    intro name
    have hdisjoint := (List.nodup_append.1 (hnames.nodup_iff.1 hnodup)).2.2
    rw [hnames.mem_iff, List.mem_append, not_or]
    constructor
    · intro hrest
      by_cases hbefore : name ∈ before.map (·.name)
      · exact .inl hbefore
      · exact .inr ⟨hbefore, hrest⟩
    · rintro (hbefore | ⟨-, hrest⟩) hmem
      · exact hdisjoint name hbefore name hmem rfl
      · exact hrest hmem
  have hkeys : u.foreignKeys.map (·.references) = v.foreignKeys.map (·.references) := by
    have h := congrArg (fun t : Table => t.foreignKeys.map (·.references)) hsame
    simp only [unmarked, List.map_map] at h
    exact h
  have hname : u.name = v.name := congrArg (·.name) hsame
  rw [isReady_iff, ReadyAfter]
  simp only [hleft, hname, ← List.forall_mem_map (f := ForeignKey.references)
    (P := fun name => name = v.name ∨ name ∈ before.map (·.name) ∨ name ∉ tables.map (·.name)),
    hkeys]

/-- In ascending order of names, every table is created at its turn. -/
theorem isTurn_of_creationOrderOf {tables before after : List Table} {t : Table}
    (h : tables.Pairwise fun t u => t.name < u.name)
    (horder : creationOrderOf tables = before ++ t :: after) : IsTurn tables before t after := by
  have hnodup := nodup_names_of_pairwise h
  obtain ⟨rest, hsublist, hrest⟩ := exists_remaining horder
  have hpairs : rest.Pairwise fun t u => t.name < u.name := h.sublist hsublist
  have hperm := map_unmarked_creationOrderOf (nodup_names_of_pairwise hpairs)
  rw [hrest] at hperm
  -- The tables in front of it and those that were left are all tables.
  have hnames : (tables.map (·.name)).Perm (before.map (·.name) ++ rest.map (·.name)) := by
    have hall := (map_name_creationOrderOf hnodup).symm
    have hleft := map_name_creationOrderOf (nodup_names_of_pairwise hpairs)
    rw [horder, List.map_append] at hall
    rw [hrest] at hleft
    exact hall.trans (hleft.append_left _)
  have hready := fun u v : Table => readyAfter_iff_isReady (u := u) (v := v) hnodup hnames
  obtain ⟨s, hpick, hsame⟩ := exists_pick?_of_cons hrest
  rcases pick?_eq_some hpairs hpick with hfirst | ⟨hstuck, hfirst⟩
  · exact .inl (hfirst.of_unmarked hperm hsame List.mem_cons_self hready)
  · refine .inr ⟨fun u hu hu' => ?_, hfirst.of_unmarked hperm hsame List.mem_cons_self ?_⟩
    · obtain ⟨v, hv, hvu⟩ := List.mem_map.1 (hperm.mem_iff.1 (List.mem_map.2 ⟨u, hu, rfl⟩))
      exact hstuck v hv ((hready u v hvu.symm).1 hu')
    · intro u v huv
      rw [onCycle_iff_of_unmarked hperm, show u.name = v.name from congrArg (·.name) huv]

/-! ## The order of creation -/

/-- Before the tables are ordered they stand in ascending order of names. -/
theorem pairwise_sorted (tables : List Table) :
    ((NameMap.ofList (tables.map fun t => (t.name, t))).entries.map (·.2)).Pairwise
      fun t u => t.name < u.name := by
  have hname : ∀ e ∈ (NameMap.ofList (tables.map fun t => (t.name, t))).entries,
      e.2.name = e.1 := by
    intro e he
    obtain ⟨t, -, rfl⟩ := List.mem_map.1 (Entries.mem_ofList he)
    rfl
  rw [List.pairwise_map]
  refine (NameMap.ofList _).ascending.imp_of_mem fun {e f} he hf hlt => ?_
  rw [hname e he, hname f hf]
  exact hlt

/-- Turns do not depend on the order in which the tables are given. -/
theorem IsTurn.of_perm {tables others before after : List Table} {t : Table}
    (h : IsTurn tables before t after) (hperm : tables.Perm others) :
    IsTurn others before t after := by
  have hready : ReadyAfter tables before = ReadyAfter others before := by
    funext u
    simp only [ReadyAfter, (hperm.map (·.name)).mem_iff]
  rwa [IsTurn, hready] at h

/-- Every table is created when it is its turn. -/
theorem isTurn_of_creationOrder {tables before after : List Table} {t : Table}
    (h : (tables.map (·.name)).Nodup) (horder : creationOrder tables = before ++ t :: after) :
    IsTurn tables before t after :=
  (isTurn_of_creationOrderOf (pairwise_sorted tables) horder).of_perm (sorted_perm h)

/-- Where a key leads to a table that is left, none of those left was ready, and its own table was
on a circle. -/
theorem stuck_of_forward {tables before after : List Table} {t : Table}
    (hnodup : (tables.map (·.name)).Nodup) (horder : creationOrder tables = before ++ t :: after)
    {key : ForeignKey} (hkey : key ∈ t.foreignKeys) (hforward : key.forward = true) :
    (∀ u ∈ t :: after, ¬isReady (t :: after) u = true) ∧ OnCycle (t :: after) t.name := by
  obtain ⟨hne, hafter⟩ := (forward_iff_later hnodup horder hkey).1 hforward
  have hnames := (map_name_creationOrder hnodup).symm
  rw [horder, List.map_append] at hnames
  have hready := fun u : Table => readyAfter_iff_isReady (u := u) hnodup hnames rfl
  rcases isTurn_of_creationOrder hnodup horder with ⟨-, hfirst, -⟩ | ⟨hstuck, -, hon, -⟩
  · -- The table was not ready, because that other table is missing.
    rw [hready t, isReady_iff] at hfirst
    rcases hfirst key hkey with hself | hmissing
    · exact absurd hself hne
    · exact absurd (List.mem_cons_of_mem _ hafter) hmissing
  · exact ⟨fun u hu hu' => hstuck u hu ((hready u).2 hu'), hon⟩

/-- A circle among the tables that are left is a circle among the tables. -/
theorem OnCycle.of_order {tables before after : List Table} {t : Table} {name : String}
    (hperm : ((before ++ t :: after).map unmarked).Perm (tables.map unmarked))
    (h : OnCycle (t :: after) name) : OnCycle tables name := by
  rw [← onCycle_iff_of_unmarked hperm]
  exact TransGen.mono (fun _ _ => Leads.mono fun _ hu => List.mem_append_right _ hu) _ _ h

/-- A table with a marked key is on a circle. -/
theorem onCycle_of_forward {tables : List Table} (h : (tables.map (·.name)).Nodup) {t : Table}
    (ht : t ∈ creationOrder tables) {key : ForeignKey} (hkey : key ∈ t.foreignKeys)
    (hforward : key.forward = true) : OnCycle tables t.name := by
  obtain ⟨before, after, horder⟩ := List.append_of_mem ht
  have hperm := map_unmarked_creationOrder h
  rw [horder] at hperm
  exact (stuck_of_forward h horder hkey hforward).2.of_order hperm

/-- **Tables of distinct names are put into an order in which they can be created**, whatever
foreign keys there are between them. -/
theorem isCreationOrder_creationOrder {tables : List Table} (h : (tables.map (·.name)).Nodup) :
    IsCreationOrder tables (creationOrder tables) where
  perm := map_unmarked_creationOrder h
  forward_iff _ _ _ horder _ hkey := forward_iff_later h horder hkey
  turn _ _ _ horder := isTurn_of_creationOrder h horder
  onCycle _ ht _ hkey hforward := onCycle_of_forward h ht hkey hforward
  unmarked hnone t ht key hkey := by
    rw [← Bool.not_eq_true]
    intro hforward
    exact hnone t.name (onCycle_of_forward h ht hkey hforward)

/-- Two circles, of which the first one leads to the second one, a table that refers to itself and
to none of the tables, and one that refers to nothing. -/
def zoo : List Table := [
  ⟨"cats", "Cat", [], [⟨"dog_id", "dogs", false⟩]⟩,
  ⟨"bats", "Bat", [],
    [⟨"ape_id", "apes", false⟩, ⟨"bat_id", "bats", false⟩, ⟨"emu_id", "emus", false⟩]⟩,
  ⟨"dogs", "Dog", [], [⟨"cat_id", "cats", false⟩]⟩,
  ⟨"eels", "Eel", [], []⟩,
  ⟨"apes", "Ape", [],
    [⟨"bat_id", "bats", false⟩, ⟨"cat_id", "cats", false⟩, ⟨"mate_id", "bats", false⟩]⟩]

/-- The tables of `zoo` are created in this order. -/
theorem isCreationOrder_zoo : (zoo.map (·.name)).Nodup ∧
    (creationOrder zoo).map (·.name) = ["eels", "apes", "bats", "cats", "dogs"] ∧
    IsCreationOrder zoo (creationOrder zoo) :=
  ⟨by decide, by decide +kernel, isCreationOrder_creationOrder (by decide)⟩

end EntityModel.Relational.Table
