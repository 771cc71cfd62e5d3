import EntityModel.Proofs.Relational.Storage

/-! # Names of relations

Tables, join tables and indexes share one space of names in a database. Their names are put together
from the names of entities and fields, but no two of them are the same (`nodup_relationNames`). -/

namespace EntityModel

open Relational

/-- The names of all tables, join tables and indexes of a plan. -/
def Relational.Plan.relationNames (p : Plan) : List String :=
  p.tables.map (·.name) ++ p.joinTables.map (·.name) ++ p.indexes.map (·.name)

namespace Schema

/-! ## Names of indexes -/

/-- The name of the index of the natural key at a position. -/
def indexName (table : String) (position : Nat) : String :=
  "idx_" ++ table ++ "_nk_" ++ toString position

/-- A natural key gives at most one index, which has the name of its position. -/
theorem keyIndex_eq_ok {entity : String} {table : Table} {position : Nat} {key : NaturalKey}
    {indexes : List UniqueIndex} (h : keyIndex entity table position key = .ok indexes) :
    indexes = [] ∨ indexes = [⟨indexName table.name position, table.name, key.fields⟩] := by
  unfold keyIndex at h
  split at h
  · exact .inl (Except.ok.inj h).symm
  · split at h
    · exact absurd h (by simp)
    · exact .inr (Except.ok.inj h).symm

/-- The indexes from a position on have the names of different positions. -/
theorem keyIndexes_eq_ok {entity name : String} {table : Table} {position : Nat}
    {keys : List NaturalKey} {indexes : List UniqueIndex}
    (htable : table.name = Naming.tableName entity)
    (h : keyIndexes name table position keys = .ok indexes) :
    (indexes.map (·.name)).Nodup ∧ ∀ index ∈ indexes, index.table = table.name ∧
      ∃ n, position ≤ n ∧ index.name = indexName table.name n := by
  induction keys generalizing position indexes with
  | nil =>
    obtain rfl := Except.ok.inj h
    exact ⟨List.nodup_nil, by simp⟩
  | cons key rest ih =>
    obtain ⟨first, hfirst, h⟩ := Outcome.bind_eq_ok_iff.1 h
    obtain ⟨others, hothers, h⟩ := Outcome.bind_eq_ok_iff.1 h
    obtain rfl := Except.ok.inj h
    obtain ⟨hnodup, hnames⟩ := ih hothers
    have hlater : ∀ index ∈ others, index.table = table.name ∧
        ∃ n, position ≤ n ∧ index.name = indexName table.name n := by
      intro index hindex
      obtain ⟨hleads, n, hn, hname⟩ := hnames index hindex
      exact ⟨hleads, n, by omega, hname⟩
    rcases keyIndex_eq_ok hfirst with rfl | rfl
    · exact ⟨hnodup, hlater⟩
    · refine ⟨List.nodup_cons.2 ⟨fun hmem => ?_, hnodup⟩, fun index hindex => ?_⟩
      · -- The later indexes have larger numbers.
        obtain ⟨index, hindex, hname⟩ := List.mem_map.1 hmem
        obtain ⟨-, n, hn, hlater⟩ := hnames index hindex
        rw [hlater, htable] at hname
        have hposition := (Naming.numbered_inj hname).2
        omega
      · rcases List.mem_cons.1 hindex with rfl | hindex
        · exact ⟨rfl, position, le_rfl, rfl⟩
        · exact hlater index hindex

/-- The indexes of an entity lead to its table, and have different names. -/
theorem entityIndexes_eq_ok {tables : List Table} {name : String} {entity : Entity}
    {indexes : List UniqueIndex} (h : entityIndexes tables name entity = .ok indexes) :
    (indexes.map (·.name)).Nodup ∧ ∀ index ∈ indexes, index.table = Naming.tableName name ∧
      ∃ n, index.name = indexName (Naming.tableName name) n := by
  unfold entityIndexes at h
  split at h
  · obtain rfl := Except.ok.inj h
    exact ⟨List.nodup_nil, by simp⟩
  · rename_i table hfind
    have htable : table.name = Naming.tableName name := by simpa using List.find?_some hfind
    obtain ⟨hnodup, hnames⟩ := keyIndexes_eq_ok htable h
    rw [htable] at hnames
    refine ⟨hnodup, fun index hindex => ?_⟩
    obtain ⟨hleads, n, -, hname⟩ := hnames index hindex
    exact ⟨hleads, n, hname⟩

namespace Passes

variable {s : Schema} {p : Plan} (ps : Passes s p)

include ps

/-- An index of the plan is one of an entity's. -/
theorem exists_entity_of_index {index : UniqueIndex} (h : index ∈ p.indexes) :
    ∃ name, s.entities.contains name = true ∧ index.table = Naming.tableName name ∧
      ∃ n, index.name = indexName (Naming.tableName name) n := by
  rw [ps.indexes_eq_flatten] at h
  obtain ⟨ofEntity, hmem, hindex⟩ := List.mem_flatten.1 h
  obtain ⟨⟨name, entity⟩, he, hok⟩ := Outcome.exists_source ps.indexes_eq hmem
  exact ⟨name, NameMap.contains_iff.2 (List.mem_map.2 ⟨_, he, rfl⟩),
    (entityIndexes_eq_ok hok).2 index hindex⟩

/-- No two indexes of the plan share a name. -/
theorem nodup_names_indexes : (p.indexes.map (·.name)).Nodup := by
  rw [ps.indexes_eq_flatten, List.map_flatten, List.nodup_flatten]
  constructor
  · intro names hnames
    obtain ⟨ofEntity, hmem, rfl⟩ := List.mem_map.1 hnames
    obtain ⟨e, -, hok⟩ := Outcome.exists_source ps.indexes_eq hmem
    exact (entityIndexes_eq_ok hok).1
  · have htables := List.pairwise_map.1 (nodup_tableNames_of_idTypesFrom ps.idTypes_eq).1
    refine List.pairwise_map.2 (Outcome.pairwise_result ps.indexes_eq htables ?_)
    intro e e' indexes indexes' hne hok hok' name hname hname'
    obtain ⟨index, hindex, rfl⟩ := List.mem_map.1 hname
    obtain ⟨index', hindex', heq⟩ := List.mem_map.1 hname'
    obtain ⟨-, m, hm⟩ := (entityIndexes_eq_ok hok).2 index hindex
    obtain ⟨-, n, hn⟩ := (entityIndexes_eq_ok hok').2 index' hindex'
    rw [hm, hn] at heq
    exact hne (Naming.numbered_inj heq.symm).1

/-- The names of tables and indexes are spaced, and those of join tables are not. -/
theorem name_ne_of_joinTable {j : JoinTable} (hj : j ∈ p.joinTables) {name : String}
    (h : Naming.Spaced name.toList) : name ≠ j.name := by
  obtain ⟨l, hl, rfl⟩ := ps.mem_joinTables_iff.1 hj
  obtain ⟨m, -, hname⟩ := ps.exists_joinName (mem_joinedLinks.1 hl).1
  rw [hname]
  exact Naming.ne_joined_of_spaced h _ _

/-- No two relations of the plan share a name. -/
theorem nodup_relationNames : p.relationNames.Nodup := by
  rw [Plan.relationNames, List.nodup_append', List.nodup_append']
  refine ⟨⟨ps.nodup_names_planned, ps.nodup_names_joinTables, fun name hmem hmem' => ?_⟩,
    ps.nodup_names_indexes, fun name hmem hi => ?_⟩
  · obtain ⟨t, ht, rfl⟩ := List.mem_map.1 hmem
    obtain ⟨j, hj, heq⟩ := List.mem_map.1 hmem'
    rw [ps.name_of_mem ht] at heq
    exact ps.name_ne_of_joinTable hj (Naming.spaced_tableName t.entity).tail heq.symm
  · obtain ⟨index, hindex, rfl⟩ := List.mem_map.1 hi
    obtain ⟨owner, -, -, n, hname⟩ := ps.exists_entity_of_index hindex
    rw [hname] at hmem
    rcases List.mem_append.1 hmem with hmem | hmem
    · obtain ⟨t, ht, heq⟩ := List.mem_map.1 hmem
      rw [ps.name_of_mem ht] at heq
      exact Naming.numbered_ne_tableName owner t.entity n heq.symm
    · obtain ⟨j, hj, heq⟩ := List.mem_map.1 hmem
      exact ps.name_ne_of_joinTable hj (Naming.spaced_numbered owner n) heq.symm

end Passes

/-! ## One space of names -/

/-- **No two relations of a plan share a name.** Two fields give their join tables one name only if
they are the halves of a pair, and no field loses its join table to another one. -/
theorem relationNames_distinct {s : Schema} {p : Plan} (h : s.plan = .ok p) :
    p.relationNames.Nodup ∧
    ∃ idTypes links, s.idTypes = .ok idTypes ∧ s.storedLinks = .ok links ∧
      ∀ l ∈ joinedLinks links, joinTable idTypes links l ∈ p.joinTables ∧
        ∀ m ∈ joinedLinks links,
          (joinTable idTypes links l).name = (joinTable idTypes links m).name →
            l = m ∨ l.IsHalfOf m := by
  obtain ⟨ps⟩ := plan_eq_ok_iff.1 h
  refine ⟨ps.nodup_relationNames, ps.idTypes, ps.links, ps.idTypes_eq, ps.links_eq, ?_⟩
  intro l hl
  have hlink := (mem_joinedLinks.1 hl).1
  refine ⟨ps.mem_joinTables_iff.2 ⟨l, hl, rfl⟩, fun m hm hname => ?_⟩
  have hmlink := (mem_joinedLinks.1 hm).1
  exact ps.eq_or_half_of_givesName hlink hmlink (ps.givesName_joinTable hlink)
    (hname ▸ ps.givesName_joinTable hmlink)

/-- The names in the plan of `kennel` are different. -/
theorem relationNames_distinct_kennel : kennel.plan = .ok kennelPlan ∧
    kennelPlan.relationNames.Nodup :=
  ⟨plan_kennel, (relationNames_distinct plan_kennel).1⟩

end Schema

end EntityModel
