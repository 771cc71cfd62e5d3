import EntityModel.Proofs.Relational.CreationOrder
import Mathlib.Data.Fintype.EquivFin
import Mathlib.Data.Fintype.Sets
import Mathlib.Logic.Relation
import Mathlib.Order.WellFounded

/-! # Circles of foreign keys

The foreign keys of a list of tables lead from table to table. The search along them finds exactly
what can be reached (`mem_reachable_iff`), so that it recognises the tables on a circle
(`inCycle_iff`). Where every table leads on to another one, every one of them leads to a circle
(`exists_onCycle`). -/

namespace EntityModel.Relational.Table

open Relation

/-! ## Steps along foreign keys -/

/-- A foreign key leads from the one table to the other one, and both are among the tables. -/
def Leads (tables : List Table) (a b : String) : Prop :=
  ∃ t ∈ tables, t.name = a ∧ b ∈ t.neighbours ∧ b ∈ tables.map (·.name)

/-- Foreign keys lead from the table through at least one other one back to it. A step leads to
another table, so that a key of a table to itself does not count. -/
def OnCycle (tables : List Table) (name : String) : Prop :=
  TransGen (Leads tables) name name

/-- The neighbours of a table are the other tables that its keys refer to. -/
theorem mem_neighbours_iff {t : Table} {name : String} :
    name ∈ t.neighbours ↔ name ≠ t.name ∧ ∃ key ∈ t.foreignKeys, key.references = name := by
  rw [neighbours, List.mem_filter, List.mem_map, decide_eq_true_iff, and_comm]

/-- Without marks a table has the same neighbours. -/
theorem neighbours_unmarked (t : Table) : t.unmarked.neighbours = t.neighbours := by
  rw [neighbours, unmarked, List.map_map]
  rfl

/-- A key leads to a table that is there. -/
theorem Leads.mem {tables : List Table} {a b : String} (h : Leads tables a b) :
    b ∈ tables.map (·.name) := by
  obtain ⟨-, -, -, -, hb⟩ := h
  exact hb

/-- A table on a cycle is there. -/
theorem OnCycle.mem {tables : List Table} {name : String} (h : OnCycle tables name) :
    name ∈ tables.map (·.name) := by
  obtain ⟨b, -, hlast⟩ := TransGen.tail'_iff.1 h
  exact hlast.mem

/-- Among more tables more is led to. -/
theorem Leads.mono {tables others : List Table} (h : ∀ t ∈ tables, t ∈ others) {a b : String}
    (hleads : Leads tables a b) : Leads others a b := by
  obtain ⟨t, ht, hname, hb, hmem⟩ := hleads
  exact ⟨t, h t ht, hname, hb, List.map_subset _ h hmem⟩

/-- Neither the order of the tables nor the marks of their keys matter for where these lead. -/
theorem leads_iff_of_unmarked {tables others : List Table}
    (h : (tables.map unmarked).Perm (others.map unmarked)) {a b : String} :
    Leads tables a b ↔ Leads others a b := by
  -- The other direction is this one with the lists exchanged.
  suffices ∀ {tables others : List Table}, (tables.map unmarked).Perm (others.map unmarked) →
      Leads tables a b → Leads others a b from ⟨this h, this h.symm⟩
  rintro tables others h ⟨t, ht, hname, hb, hmem⟩
  obtain ⟨u, hu, hsame⟩ := List.mem_map.1 (h.mem_iff.1 (List.mem_map.2 ⟨t, ht, rfl⟩))
  have hnames := h.map (·.name)
  rw [map_name_unmarked, map_name_unmarked] at hnames
  refine ⟨u, hu, ?_, ?_, hnames.mem_iff.1 hmem⟩
  · rw [← hname]
    exact congrArg (·.name) hsame
  · rw [← neighbours_unmarked, hsame, neighbours_unmarked]
    exact hb

/-- Neither the order of the tables nor the marks of their keys matter for cycles. -/
theorem onCycle_iff_of_unmarked {tables others : List Table}
    (h : (tables.map unmarked).Perm (others.map unmarked)) {name : String} :
    OnCycle tables name ↔ OnCycle others name :=
  ⟨TransGen.mono (fun _ _ => (leads_iff_of_unmarked h).1) _ _,
    TransGen.mono (fun _ _ => (leads_iff_of_unmarked h).2) _ _⟩

/-! ## The search -/

/-- Where names differ, the table that is found under a name is the one that has it. -/
theorem find?_eq_some_iff {tables : List Table} (h : (tables.map (·.name)).Nodup) {name : String}
    {t : Table} : find? tables name = some t ↔ t ∈ tables ∧ t.name = name := by
  constructor
  · intro hfind
    exact ⟨List.mem_of_find?_eq_some hfind, by simpa using List.find?_some hfind⟩
  · rintro ⟨ht, rfl⟩
    refine find?_eq_some_of_unique ht (by simp) fun u hu hname => ?_
    exact List.inj_on_of_nodup_map h hu ht (by simpa using hname)

/-- No table is found under exactly those names that none has. -/
theorem find?_eq_none_iff {tables : List Table} {name : String} :
    find? tables name = none ↔ name ∉ tables.map (·.name) := by
  simp [find?]

/-- Without a table the names of the others are left. -/
theorem mem_names_without {tables : List Table} {name other : String} :
    other ∈ (without tables name).map (·.name) ↔ other ≠ name ∧ other ∈ tables.map (·.name) := by
  simp only [without, List.mem_map, List.mem_filter, decide_eq_true_iff]
  constructor
  · rintro ⟨t, ⟨ht, hne⟩, rfl⟩
    exact ⟨hne, t, ht, rfl⟩
  · rintro ⟨hne, t, ht, rfl⟩
    exact ⟨t, ⟨ht, hne⟩, rfl⟩

/-- Without a table the keys lead to no more of them. -/
theorem leads_without_le (tables : List Table) (name : String) :
    Leads (without tables name) ≤ Leads tables :=
  fun _ _ h => h.mono fun _ ht => List.mem_of_mem_filter ht

/-- A way among the tables avoids one of them, or goes on from the last time it is met. -/
theorem reach_without {tables : List Table} {t : Table} (hnodup : (tables.map (·.name)).Nodup)
    (ht : t ∈ tables) {a b : String} (hmem : a ∈ tables.map (·.name))
    (h : ReflTransGen (Leads tables) a b) :
    b = t.name ∨ (a ≠ t.name ∧ ReflTransGen (Leads (without tables t.name)) a b) ∨
      ∃ c ∈ t.neighbours, c ∈ (without tables t.name).map (·.name) ∧
        ReflTransGen (Leads (without tables t.name)) c b := by
  induction h using ReflTransGen.head_induction_on with
  | refl =>
    by_cases hb : b = t.name
    · exact .inl hb
    · exact .inr (.inl ⟨hb, .refl⟩)
  | @head a c hstep hrest ih =>
    rcases ih hstep.mem with hb | ⟨hc, hway⟩ | hlast
    · exact .inl hb
    · obtain ⟨u, hu, hname, hcu, hcmem⟩ := hstep
      have hcrest := mem_names_without.2 ⟨hc, hcmem⟩
      by_cases ha : a = t.name
      · -- The way leaves the table here for the last time.
        obtain rfl : u = t := List.inj_on_of_nodup_map hnodup hu ht (hname.trans ha)
        exact .inr (.inr ⟨c, hcu, hcrest, hway⟩)
      · have hu' : u ∈ without tables t.name :=
          List.mem_filter.2 ⟨hu, decide_eq_true (hname ▸ ha)⟩
        exact .inr (.inl ⟨ha, .head ⟨u, hu', hname, hcu, hcrest⟩ hway⟩)
    · exact .inr (.inr hlast)

/-- The search finds the tables that can be reached from one of the given ones. -/
theorem mem_reachable_iff {tables : List Table} (h : (tables.map (·.name)).Nodup)
    {starts : List String} {name : String} :
    name ∈ reachable tables starts ↔
      ∃ a ∈ starts, a ∈ tables.map (·.name) ∧ ReflTransGen (Leads tables) a name := by
  fun_induction reachable tables starts with
  | case1 tables => simp
  | case2 tables first starts hnone ih =>
    -- A name without a table leads nowhere.
    rw [ih h]
    have hfirst := find?_eq_none_iff.1 hnone
    simp only [List.mem_cons, exists_eq_or_imp]
    exact ⟨.inr, fun hor => hor.resolve_left fun hmem => hfirst hmem.1⟩
  | case3 tables first starts t hfind ih =>
    obtain ⟨ht, rfl⟩ := (find?_eq_some_iff h).1 hfind
    -- The search goes on without the table, from its neighbours and the other starts.
    have hmem : t.name ∈ tables.map (·.name) := List.mem_map.2 ⟨t, ht, rfl⟩
    rw [List.mem_cons, ih (nodup_names_without h _)]
    constructor
    · rintro (rfl | ⟨a, ha, harest, hway⟩)
      · exact ⟨t.name, List.mem_cons_self, hmem, .refl⟩
      · have hamem := (mem_names_without.1 harest).2
        have hway := ReflTransGen.mono (leads_without_le tables _) _ _ hway
        rcases List.mem_append.1 ha with ha | ha
        · exact ⟨t.name, List.mem_cons_self, hmem, .head ⟨t, ht, rfl, ha, hamem⟩ hway⟩
        · exact ⟨a, List.mem_cons_of_mem _ ha, hamem, hway⟩
    · rintro ⟨a, ha, hamem, hway⟩
      rcases reach_without h ht hamem hway with hname | ⟨hne, hway⟩ | ⟨c, hc, hcrest, hway⟩
      · exact .inl hname
      · have ha := (List.mem_cons.1 ha).resolve_left hne
        exact .inr ⟨a, List.mem_append_right _ ha, mem_names_without.2 ⟨hne, hamem⟩, hway⟩
      · exact .inr ⟨c, List.mem_append_left _ hc, hcrest, hway⟩

/-- The search recognises the tables on a circle. -/
theorem inCycle_iff {tables : List Table} (h : (tables.map (·.name)).Nodup) {t : Table}
    (ht : t ∈ tables) : inCycle tables t = true ↔ OnCycle tables t.name := by
  rw [inCycle, List.contains_iff_mem, mem_reachable_iff h, OnCycle, TransGen.head'_iff]
  constructor
  · rintro ⟨a, ha, hmem, hway⟩
    exact ⟨a, ⟨t, ht, rfl, ha, hmem⟩, hway⟩
  · rintro ⟨a, ⟨u, hu, hname, ha, hmem⟩, hway⟩
    obtain rfl := List.inj_on_of_nodup_map h hu ht hname
    exact ⟨a, ha, hmem, hway⟩

/-! ## Tables that all lead on -/

/-- Where every table leads on to another one, every way can be continued to a circle. -/
theorem exists_onCycle {tables : List Table}
    (h : ∀ a ∈ tables.map (·.name), ∃ b, Leads tables a b) {a : String}
    (ha : a ∈ tables.map (·.name)) :
    ∃ c, ReflTransGen (Leads tables) a c ∧ OnCycle tables c := by
  by_contra hnone
  rw [not_exists] at hnone
  -- Among the tables that can be reached, going back along keys would be well-founded.
  let R := fun x y : {name // name ∈ tables.map (·.name)} =>
    ReflTransGen (Leads tables) a y ∧ TransGen (Leads tables) y.1 x.1
  have hirrefl : Std.Irrefl R := ⟨fun x hx => hnone x ⟨hx.1, hx.2⟩⟩
  have htrans : IsTrans _ R := ⟨fun x y z hxy hyz => ⟨hyz.1, hyz.2.trans hxy.2⟩⟩
  have hwf : WellFounded R := Finite.wellFounded_of_trans_of_irrefl R
  -- So one of them would lead nowhere.
  obtain ⟨⟨m, hm⟩, hreach, hmin⟩ := hwf.has_min
    {x | ReflTransGen (Leads tables) a x.1} ⟨⟨a, ha⟩, .refl⟩
  obtain ⟨b, hb⟩ := h m hm
  exact hmin ⟨b, hb.mem⟩ (hreach.tail hb) ⟨hreach, .single hb⟩

end EntityModel.Relational.Table
