import EntityModel.Proofs.Naming
import EntityModel.Proofs.Relational.CreationOrder
import EntityModel.Proofs.Relational.Links

/-! # The passes of planning

Planning a schema goes through it several times. `Passes` holds what every pass gives, for a schema
that can be planned; what the plan is made of is read off them. The tables of the plan are those of
the entities, with names of their own, and a foreign key leads to one of them. -/

namespace EntityModel.Schema

open Relational

/-! ## Identifiers -/

/-- Identifiers have types if the table of the first entity is new, its identifier has a type, and
the others have. -/
theorem idTypesFrom_cons_eq_ok_iff {v : Vocabulary} {owners : List (String × String)}
    {name : String} {entity : Entity} {rest : List (String × Entity)}
    {types : List (String × ColumnType)} :
    idTypesFrom v owners ((name, entity) :: rest) = .ok types ↔
      Entries.find? (Naming.tableName name) owners = none ∧
        ∃ type others, idType v name entity = .ok type ∧
          idTypesFrom v ((Naming.tableName name, name) :: owners) rest = .ok others ∧
          types = (name, type) :: others := by
  rw [idTypesFrom]
  cases hfind : Entries.find? (Naming.tableName name) owners with
  | some first => simp
  | none =>
    simp only [true_and]
    rw [Outcome.bind_eq_ok_iff]
    refine exists_congr fun type => ?_
    rw [Outcome.bind_eq_ok_iff]
    simp only [pure, Except.pure, Except.ok.injEq]
    constructor
    · rintro ⟨htype, others, hothers, rfl⟩
      exact ⟨others, htype, hothers, rfl⟩
    · rintro ⟨others, htype, hothers, rfl⟩
      exact ⟨htype, others, hothers, rfl⟩

/-- Where the identifiers have types, the tables have names that are new and distinct. -/
theorem nodup_tableNames_of_idTypesFrom {v : Vocabulary} {owners : List (String × String)}
    {entries : List (String × Entity)} {types : List (String × ColumnType)}
    (h : idTypesFrom v owners entries = .ok types) :
    (entries.map fun e => Naming.tableName e.1).Nodup ∧
      ∀ e ∈ entries, Entries.find? (Naming.tableName e.1) owners = none := by
  induction entries generalizing owners types with
  | nil => exact ⟨List.nodup_nil, by simp⟩
  | cons e rest ih =>
    obtain ⟨name, entity⟩ := e
    obtain ⟨hnew, type, others, -, hrest, -⟩ := idTypesFrom_cons_eq_ok_iff.1 h
    obtain ⟨hnodup, hothers⟩ := ih hrest
    -- The pass over the rest knows the name as well, so no later table has it.
    have hsplit : ∀ e ∈ rest, Naming.tableName name ≠ Naming.tableName e.1 ∧
        Entries.find? (Naming.tableName e.1) owners = none := by
      intro e he
      have hnone := hothers e he
      rw [Entries.find?] at hnone
      split at hnone
      · exact absurd hnone (by simp)
      · rename_i hne
        exact ⟨hne, hnone⟩
    refine ⟨List.nodup_cons.2 ⟨fun hmem => ?_, hnodup⟩, fun e he => ?_⟩
    · obtain ⟨e, he, heq⟩ := List.mem_map.1 hmem
      exact (hsplit e he).1 heq.symm
    · rcases List.mem_cons.1 he with rfl | he
      · exact hnew
      · exact (hsplit e he).2

/-- Where the identifiers have types, no two entities share a table name. -/
theorem tableName_inj {s : Schema} {types : List (String × ColumnType)} (h : s.idTypes = .ok types)
    {a b : String} (ha : s.entities.contains a = true) (hb : s.entities.contains b = true)
    (hname : Naming.tableName a = Naming.tableName b) : a = b := by
  have hnodup := (nodup_tableNames_of_idTypesFrom h).1
  obtain ⟨e, he, rfl⟩ := List.mem_map.1 (NameMap.contains_iff.1 ha)
  obtain ⟨e', he', rfl⟩ := List.mem_map.1 (NameMap.contains_iff.1 hb)
  rw [List.inj_on_of_nodup_map hnodup he he' hname]

/-! ## Tables of entities -/

/-- A field is not kept if the decision about a link in it says so. -/
theorem keepsField_eq_false_iff {links : List StoredLink} {field : String} :
    keepsField links field = false ↔
      ∃ l ∈ links, l.field = field ∧ l.decision.keepsColumn = false := by
  simp [keepsField]

/-- The links of an entity are those that it owns. -/
theorem mem_linksOf {links : List StoredLink} {owner : String} {l : StoredLink} :
    l ∈ linksOf links owner ↔ l ∈ links ∧ l.owner = owner := by
  simp [linksOf]

/-- A column has the name of its property. -/
theorem name_of_column_eq_ok {v : Vocabulary} {owner name : String} {entity : Entity} {p : Property}
    {c : Column} (h : column v owner entity name p = .ok c) : c.name = name := by
  unfold column at h
  split at h
  · exact absurd h (by simp)
  · rw [← Except.ok.inj h]

/-- The table of an entity has a column for every property that is kept, and a foreign key for every
link that is stored in one. -/
theorem table_eq_ok {v : Vocabulary} {links : List StoredLink} {name : String} {entity : Entity}
    {t : Table} (h : table v links name entity = .ok t) :
    t.name = Naming.tableName name ∧ t.entity = name ∧
      (∀ field, field ∈ t.columns.map (·.name) ↔ entity.properties.contains field = true ∧
        keepsField (linksOf links name) field = true) ∧
      t.foreignKeys = ((linksOf links name).filter (·.decision = .foreignKey)).map foreignKey := by
  obtain ⟨columns, hcolumns, hrest⟩ := Outcome.bind_eq_ok_iff.1 h
  obtain rfl := Except.ok.inj hrest
  refine ⟨rfl, rfl, fun field => ?_, rfl⟩
  have hnames : columns.map (·.name) = (entity.properties.entries.filter fun e =>
      keepsField (linksOf links name) e.1).map (·.1) :=
    Outcome.map_result_eq hcolumns fun e _ c hc => name_of_column_eq_ok hc
  -- Moving the key to the front keeps the columns.
  have hperm : (columns.filter (·.primaryKey) ++ columns.filter (!·.primaryKey)).Perm columns :=
    List.filter_append_perm _ _
  rw [(hperm.map (·.name)).mem_iff, hnames, NameMap.contains_iff, NameMap.names, Entries.names]
  simp only [List.mem_map, List.mem_filter]
  constructor
  · rintro ⟨e, ⟨he, hkeeps⟩, rfl⟩
    exact ⟨⟨e, he, rfl⟩, hkeeps⟩
  · rintro ⟨⟨e, he, rfl⟩, hkeeps⟩
    exact ⟨e, ⟨he, hkeeps⟩, rfl⟩

/-- A table is made without marks. -/
theorem unmarked_of_table_eq_ok {v : Vocabulary} {links : List StoredLink} {name : String}
    {entity : Entity} {t : Table} (h : table v links name entity = .ok t) : t.unmarked = t := by
  have hkeys : t.foreignKeys.map ForeignKey.unmarked = t.foreignKeys := by
    rw [(table_eq_ok h).2.2.2, List.map_map]
    rfl
  rw [Table.unmarked, hkeys]

/-! ## Plans -/

/-- What the passes over a schema give that can be planned. -/
structure Passes (s : Schema) (p : Plan) where
  /-- The types of the identifiers. -/
  idTypes : List (String × ColumnType)
  /-- The links with the decisions about their storage. -/
  links : List StoredLink
  /-- The tables in the order of their entities. -/
  tables : List Table
  /-- The indexes of each entity. -/
  indexes : List (List UniqueIndex)
  idTypes_eq : s.idTypes = .ok idTypes
  links_eq : s.storedLinks = .ok links
  tables_eq : s.entities.entries.mapM (fun e => table s.vocabulary links e.1 e.2) = .ok tables
  indexes_eq : s.entities.entries.mapM (fun e => entityIndexes tables e.1 e.2) = .ok indexes
  plan_eq : p = {
    tables := Table.creationOrder tables
    joinTables := joinTables idTypes links
    indexes := indexes.flatten
    requiredJoins := s.requiredJoins idTypes links }

/-- A schema can be planned if all the passes over it succeed. -/
theorem plan_eq_ok_iff {s : Schema} {p : Plan} : s.plan = .ok p ↔ Nonempty (Passes s p) := by
  constructor
  · intro h
    obtain ⟨idTypes, hidTypes, h⟩ := Outcome.bind_eq_ok_iff.1 h
    obtain ⟨links, hlinks, h⟩ := Outcome.bind_eq_ok_iff.1 h
    obtain ⟨tables, htables, h⟩ := Outcome.bind_eq_ok_iff.1 h
    obtain ⟨indexes, hindexes, h⟩ := Outcome.bind_eq_ok_iff.1 h
    exact ⟨⟨idTypes, links, tables, indexes, hidTypes, hlinks, htables, hindexes,
      (Except.ok.inj h).symm⟩⟩
  · rintro ⟨ps⟩
    refine Outcome.bind_eq_ok_iff.2 ⟨ps.idTypes, ps.idTypes_eq, ?_⟩
    refine Outcome.bind_eq_ok_iff.2 ⟨ps.links, ps.links_eq, ?_⟩
    refine Outcome.bind_eq_ok_iff.2 ⟨ps.tables, ps.tables_eq, ?_⟩
    refine Outcome.bind_eq_ok_iff.2 ⟨ps.indexes, ps.indexes_eq, ?_⟩
    exact congrArg Except.ok ps.plan_eq.symm

namespace Passes

variable {s : Schema} {p : Plan} (ps : Passes s p)

include ps

/-- The tables of the plan are those that were made, in the order of their creation. -/
theorem tables_eq_creationOrder : p.tables = Table.creationOrder ps.tables :=
  congrArg Plan.tables ps.plan_eq

/-- The join tables of the plan are those of the links. -/
theorem joinTables_eq : p.joinTables = joinTables ps.idTypes ps.links :=
  congrArg Plan.joinTables ps.plan_eq

/-- The indexes of the plan are those of the entities in a row. -/
theorem indexes_eq_flatten : p.indexes = ps.indexes.flatten := congrArg Plan.indexes ps.plan_eq

/-- The required joins of the plan are those of the links. -/
theorem requiredJoins_eq : p.requiredJoins = s.requiredJoins ps.idTypes ps.links :=
  congrArg Plan.requiredJoins ps.plan_eq

/-- The tables are named after the entities. -/
theorem map_name_tables : ps.tables.map (·.name) = s.entities.names.map Naming.tableName := by
  rw [NameMap.names, Entries.names, List.map_map]
  exact Outcome.map_result_eq ps.tables_eq fun e _ t ht => (table_eq_ok ht).1

/-- No two tables have the same name. -/
theorem nodup_names_tables : (ps.tables.map (·.name)).Nodup := by
  rw [ps.map_name_tables, NameMap.names, Entries.names, List.map_map]
  exact (nodup_tableNames_of_idTypesFrom ps.idTypes_eq).1

/-- Apart from their marks, the tables of the plan are those of the entities. -/
theorem map_unmarked_planned : (p.tables.map Table.unmarked).Perm ps.tables := by
  have hunmarked : ps.tables.map Table.unmarked = ps.tables := by
    rw [List.map_congr_left (g := id) fun t ht => ?_, List.map_id]
    obtain ⟨e, -, he⟩ := Outcome.exists_source ps.tables_eq ht
    exact unmarked_of_table_eq_ok he
  have hperm := Table.map_unmarked_creationOrder ps.nodup_names_tables
  rw [hunmarked] at hperm
  rwa [ps.tables_eq_creationOrder]

/-- No two tables of the plan share a name. -/
theorem nodup_names_planned : (p.tables.map (·.name)).Nodup := by
  rw [ps.tables_eq_creationOrder]
  exact (Table.map_name_creationOrder ps.nodup_names_tables).nodup_iff.2 ps.nodup_names_tables

/-- A table of the plan is the table of its entity, apart from its marks. -/
theorem exists_entity_of_mem {t : Table} (ht : t ∈ p.tables) :
    ∃ entity, s.entities.find? t.entity = some entity ∧
      table s.vocabulary ps.links t.entity entity = .ok t.unmarked := by
  have hmem : t.unmarked ∈ ps.tables :=
    ps.map_unmarked_planned.mem_iff.1 (List.mem_map.2 ⟨t, ht, rfl⟩)
  obtain ⟨⟨name, entity⟩, he, htable⟩ := Outcome.exists_source ps.tables_eq hmem
  have hname : t.entity = name := (table_eq_ok htable).2.1
  exact ⟨entity, NameMap.find?_eq_some_iff.2 (hname ▸ he), hname ▸ htable⟩

/-- A table of the plan is named after its entity. -/
theorem name_of_mem {t : Table} (ht : t ∈ p.tables) : t.name = Naming.tableName t.entity := by
  obtain ⟨entity, -, htable⟩ := ps.exists_entity_of_mem ht
  exact (table_eq_ok htable).1

/-- Every entity has a table in the plan. -/
theorem exists_table {name : String} (h : s.entities.contains name = true) :
    ∃ t ∈ p.tables, t.entity = name := by
  obtain ⟨⟨key, entity⟩, he, rfl⟩ := List.mem_map.1 (NameMap.contains_iff.1 h)
  obtain ⟨u, hu, htable⟩ := Outcome.exists_result ps.tables_eq he
  obtain ⟨t, ht, rfl⟩ := List.mem_map.1 (ps.map_unmarked_planned.mem_iff.2 hu)
  exact ⟨t, ht, (table_eq_ok htable).2.1⟩

/-- Every entity has a table in the plan. -/
theorem tableName_mem {name : String} (h : s.entities.contains name = true) :
    Naming.tableName name ∈ p.tables.map (·.name) := by
  obtain ⟨t, ht, rfl⟩ := ps.exists_table h
  exact List.mem_map.2 ⟨t, ht, ps.name_of_mem ht⟩

/-- An entity has one table. -/
theorem eq_of_entity_eq {t u : Table} (ht : t ∈ p.tables) (hu : u ∈ p.tables)
    (h : t.entity = u.entity) : t = u := by
  refine List.inj_on_of_nodup_map ps.nodup_names_planned ht hu ?_
  rw [ps.name_of_mem ht, ps.name_of_mem hu, h]

/-- The keys of a table in the plan are those of its links, apart from their marks. -/
theorem map_unmarked_foreignKeys {t : Table} (ht : t ∈ p.tables) :
    t.foreignKeys.map ForeignKey.unmarked =
      ((linksOf ps.links t.entity).filter (·.decision = .foreignKey)).map foreignKey := by
  obtain ⟨entity, -, htable⟩ := ps.exists_entity_of_mem ht
  exact (table_eq_ok htable).2.2.2

/-- A foreign key of the plan is the one of a link. -/
theorem exists_link_of_key {t : Table} (ht : t ∈ p.tables) {key : ForeignKey}
    (hkey : key ∈ t.foreignKeys) : ∃ l ∈ ps.links, l.owner = t.entity ∧
      l.decision = .foreignKey ∧ l.field = key.column ∧
        key.references = Naming.tableName l.target := by
  have hmem : key.unmarked ∈ t.foreignKeys.map ForeignKey.unmarked :=
    List.mem_map.2 ⟨key, hkey, rfl⟩
  rw [ps.map_unmarked_foreignKeys ht] at hmem
  obtain ⟨l, hl, heq⟩ := List.mem_map.1 hmem
  rw [List.mem_filter, mem_linksOf, decide_eq_true_iff] at hl
  exact ⟨l, hl.1.1, hl.1.2, hl.2, congrArg ForeignKey.column heq,
    (congrArg ForeignKey.references heq).symm⟩

/-- The table that a foreign key leads to is in the plan. -/
theorem exists_table_of_key {t : Table} (ht : t ∈ p.tables) {key : ForeignKey}
    (hkey : key ∈ t.foreignKeys) : key.references ∈ p.tables.map (·.name) := by
  obtain ⟨l, hl, -, -, -, hreferences⟩ := ps.exists_link_of_key ht hkey
  rw [hreferences]
  exact ps.tableName_mem (of_mem_storedLinks ps.links_eq hl).2.2

end Passes

end EntityModel.Schema
