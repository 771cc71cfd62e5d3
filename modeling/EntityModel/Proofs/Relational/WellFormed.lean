import EntityModel.Proofs.Relational.Columns

/-! # Schemas that can be planned

Planning fails in different passes, and some of them ask what other passes have decided. What a
schema has to be like can still be said without any pass (`WellFormed`), and the schemas of that
kind are exactly those that have a plan (`exists_plan_iff`). There is one lemma for each pass, which
says when it succeeds, given the results of the passes before it. -/

namespace EntityModel

open Relational

namespace Schema

/-- The field is a property of the entity that stays a column of its table: no relationship takes it
away. -/
def KeepsField (s : Schema) (owner field : String) : Prop :=
  (∃ entity, s.entities.find? owner = some entity ∧ entity.properties.contains field = true) ∧
    ¬s.DropsField owner field

/-- What a schema has to be like to have a plan. -/
structure WellFormed (s : Schema) : Prop where
  /-- Every entity has a property `id` with the type of an identifier. -/
  identifier : ∀ owner, s.entities.contains owner = true →
    ∃ type, s.HasType owner "id" type ∧ (type = .uuid ∨ type = .text)
  /-- No two entities share the name of their tables. -/
  table : ∀ a b, s.entities.contains a = true → s.entities.contains b = true →
    Naming.tableName a = Naming.tableName b → a = b
  /-- Every relationship leads to an entity, and its field is a property that is known to be an
  array or none. -/
  relationship : ∀ owner field r, s.Declares owner field r →
    s.entities.contains r.target = true ∧ ∃ isArray, s.HasShape owner field isArray
  /-- No array asks for a foreign key. -/
  storage : ∀ owner field r, s.Declares owner field r → s.HasShape owner field true →
    r.storage ≠ .foreignKey
  /-- Every property that stays a column has a type. -/
  column : ∀ owner field, s.KeepsField owner field → ∃ type, s.HasType owner field type
  /-- The fields of natural keys stay columns. -/
  naturalKey : ∀ owner entity, s.entities.find? owner = some entity →
    ∀ key ∈ entity.naturalKeys, ∀ field ∈ key.fields, s.KeepsField owner field

variable {s : Schema}

/-! ## Identifiers -/

/-- The identifiers have types if each of them has one, and if the names of the tables are distinct
and new. -/
theorem exists_idTypesFrom_iff {v : Vocabulary} {owners : List (String × String)}
    {entries : List (String × Entity)} :
    (∃ types, idTypesFrom v owners entries = .ok types) ↔
      (∀ e ∈ entries, ∃ type, idType v e.1 e.2 = .ok type) ∧
        (entries.map fun e => Naming.tableName e.1).Nodup ∧
        ∀ e ∈ entries, Entries.find? (Naming.tableName e.1) owners = none := by
  constructor
  · rintro ⟨types, h⟩
    exact ⟨fun e he => exists_idType h he, nodup_tableNames_of_idTypesFrom h⟩
  · induction entries generalizing owners with
    | nil => exact fun _ => ⟨[], rfl⟩
    | cons first rest ih =>
      rintro ⟨htypes, hnodup, hnew⟩
      rw [List.forall_mem_cons] at htypes hnew
      obtain ⟨hname, hnodup⟩ := List.nodup_cons.1 hnodup
      obtain ⟨type, htype⟩ := htypes.1
      -- The table of the first entity is one more that the others must not have.
      have hothers : ∀ e ∈ rest, Entries.find? (Naming.tableName e.1)
          ((Naming.tableName first.1, first.1) :: owners) = none := by
        intro e he
        rw [Entries.find?, if_neg fun heq => hname (List.mem_map.2 ⟨e, he, heq.symm⟩)]
        exact hnew.2 e he
      obtain ⟨types, hrest⟩ := ih ⟨htypes.2, hnodup, hothers⟩
      exact ⟨_, idTypesFrom_cons_eq_ok_iff.2 ⟨hnew.1, type, types, htype, hrest, rfl⟩⟩

/-- The identifier of an entity has a type exactly if its property has one that identifiers may
have. -/
theorem exists_idType_iff {owner : String} {entity : Entity}
    (h : s.entities.find? owner = some entity) :
    (∃ type, idType s.vocabulary owner entity = .ok type) ↔
      ∃ type, s.HasType owner "id" type ∧ (type = .uuid ∨ type = .text) := by
  simp only [idType_eq_ok_iff, ← ColumnType.isIdentifier_iff]
  constructor
  · rintro ⟨type, q, shape, hq, hshape, hid, rfl⟩
    exact ⟨_, ⟨entity, q, shape, h, hq, hshape, rfl⟩, hid⟩
  · rintro ⟨type, ⟨entity', q, shape, hentity, hq, hshape, rfl⟩, hid⟩
    obtain rfl := Option.some.inj (h.symm.trans hentity)
    exact ⟨_, q, shape, hq, hshape, hid, rfl⟩

/-- The names of the tables of all entities are distinct if no two entities share one. -/
theorem nodup_tableNames_iff :
    (s.entities.entries.map fun e => Naming.tableName e.1).Nodup ↔
      ∀ a b, s.entities.contains a = true → s.entities.contains b = true →
        Naming.tableName a = Naming.tableName b → a = b := by
  have hnames : s.entities.entries.map (fun e => Naming.tableName e.1) =
      s.entities.names.map Naming.tableName := by
    rw [NameMap.names, Entries.names, List.map_map]
    rfl
  simp only [hnames, NameMap.contains_iff]
  constructor
  · intro h a b ha hb hname
    exact List.inj_on_of_nodup_map h ha hb hname
  · intro h
    exact s.entities.nodup_names.map_on fun a ha b hb => h a b ha hb

/-- Identifiers have types exactly if each of them has one, and no two entities share a table. -/
theorem exists_idTypes_iff : (∃ types, s.idTypes = .ok types) ↔
    (∀ owner, s.entities.contains owner = true →
      ∃ type, s.HasType owner "id" type ∧ (type = .uuid ∨ type = .text)) ∧
    ∀ a b, s.entities.contains a = true → s.entities.contains b = true →
      Naming.tableName a = Naming.tableName b → a = b := by
  rw [idTypes, exists_idTypesFrom_iff, nodup_tableNames_iff]
  refine and_congr ?_ (and_iff_left fun e _ => rfl)
  constructor
  · intro h owner howner
    obtain ⟨entity, hentity⟩ := Option.isSome_iff_exists.1 howner
    exact (exists_idType_iff hentity).1 (h (owner, entity) (NameMap.find?_eq_some_iff.1 hentity))
  · rintro h ⟨owner, entity⟩ he
    have hentity := NameMap.find?_eq_some_iff.2 he
    exact (exists_idType_iff hentity).2 (h owner (Option.isSome_iff_exists.2 ⟨entity, hentity⟩))

/-! ## Relationships -/

/-- Relationships have links exactly if their targets are there, and it can be told whether their
fields are arrays. -/
theorem exists_links_iff : (∃ links, s.links = .ok links) ↔
    ∀ owner field r, s.Declares owner field r →
      s.entities.contains r.target = true ∧ ∃ isArray, s.HasShape owner field isArray := by
  constructor
  · rintro ⟨links, h⟩ owner field r hr
    obtain ⟨l, hl, rfl, rfl, rfl⟩ := exists_link h hr
    obtain ⟨-, hshape, htarget⟩ := of_mem_links h hl
    exact ⟨htarget, _, hshape⟩
  · intro h
    have hall : ∀ e ∈ s.entities.entries, ∃ links, e.2.relationships.entries.mapM
        (fun r => s.link e.1 e.2 r.1 r.2) = .ok links := by
      rintro ⟨owner, entity⟩ he
      refine Outcome.exists_mapM_eq_ok_iff.2 fun ⟨field, r⟩ hr => ?_
      have hentity := NameMap.find?_eq_some_iff.2 he
      obtain ⟨htarget, isArray, entity', q, hentity', hq, hshape⟩ :=
        h owner field r ⟨entity, hentity, NameMap.find?_eq_some_iff.2 hr⟩
      obtain rfl := Option.some.inj (hentity.symm.trans hentity')
      exact ⟨_, link_eq_ok_iff.2 ⟨q, isArray, hq, htarget, hshape, rfl⟩⟩
    obtain ⟨ofEntities, hlinks⟩ := Outcome.exists_mapM_eq_ok_iff.2 hall
    exact ⟨ofEntities.flatten, Outcome.bind_eq_ok_iff.2 ⟨ofEntities, hlinks, rfl⟩⟩

/-- Links can be stored if none of them is an array that asks for a foreign key. -/
theorem exists_storedLinks_iff {links : List Link} (h : s.links = .ok links) :
    (∃ stored, s.storedLinks = .ok stored) ↔
      ∀ owner field r, s.Declares owner field r → s.HasShape owner field true →
        r.storage ≠ .foreignKey := by
  -- The only link without a decision is an array that asks for a key.
  have hstored : (∃ stored, s.storedLinks = .ok stored) ↔
      ∀ l ∈ links, ¬(l.isArray = true ∧ l.relationship.storage = .foreignKey) := by
    have hstep : ∀ l, (∃ stored, storeLink links l = .ok stored) ↔
        ¬(l.isArray = true ∧ l.relationship.storage = .foreignKey) := by
      intro l
      have hnone : (l.facts links).decide? = none ↔
          l.isArray = true ∧ l.relationship.storage = .foreignKey :=
        RelationshipFacts.decide?_eq_none_iff _
      rw [storeLink]
      cases hd : (l.facts links).decide? with
      | none => simpa [hd] using hnone
      | some d => simpa [hd] using hnone
    rw [storedLinks, h]
    simp only [← hstep]
    exact Outcome.exists_mapM_eq_ok_iff
  rw [hstored]
  constructor
  · intro hlinks owner field r hr hshape
    obtain ⟨l, hl, rfl, rfl, rfl⟩ := exists_link h hr
    have harray : l.isArray = true := (of_mem_links h hl).2.1.unique hshape
    exact fun hstorage => hlinks l hl ⟨harray, hstorage⟩
  · rintro hdeclared l hl ⟨harray, hstorage⟩
    obtain ⟨hr, hshape, -⟩ := of_mem_links h hl
    exact hdeclared _ _ _ hr (harray ▸ hshape) hstorage

/-! ## Tables -/

/-- An entity has a table exactly if every field that is kept has a column. -/
theorem exists_table_iff {v : Vocabulary} {links : List StoredLink} {name : String}
    {entity : Entity} : (∃ t, table v links name entity = .ok t) ↔
      ∀ field q, entity.properties.find? field = some q →
        keepsField (linksOf links name) field = true → ∃ shape, v.columnShape q = .ok shape := by
  -- Only the columns can fail: foreign keys are read off the links.
  have hcolumns : (∃ t, table v links name entity = .ok t) ↔ ∃ columns,
      (entity.properties.entries.filter fun e => keepsField (linksOf links name) e.1).mapM
        (fun e => column v name entity e.1 e.2) = .ok columns := by
    constructor
    · rintro ⟨t, h⟩
      obtain ⟨columns, hcolumns, -⟩ := exists_columns h
      exact ⟨columns, hcolumns⟩
    · rintro ⟨columns, hcolumns⟩
      exact ⟨_, Outcome.bind_eq_ok_iff.2 ⟨columns, hcolumns, rfl⟩⟩
  rw [hcolumns, Outcome.exists_mapM_eq_ok_iff]
  constructor
  · intro h field q hq hkeeps
    obtain ⟨c, hc⟩ := h (field, q) (List.mem_filter.2 ⟨NameMap.find?_eq_some_iff.1 hq, hkeeps⟩)
    obtain ⟨shape, hshape, -⟩ := column_eq_ok_iff.1 hc
    exact ⟨shape, hshape⟩
  · rintro h ⟨field, q⟩ he
    obtain ⟨hq, hkeeps⟩ := List.mem_filter.1 he
    obtain ⟨shape, hshape⟩ := h field q (NameMap.find?_eq_some_iff.2 hq) hkeeps
    exact ⟨_, column_eq_ok_iff.2 ⟨shape, hshape, rfl⟩⟩

/-- The entities have tables if the properties that stay columns have types. -/
theorem exists_tables_iff {links : List StoredLink} (h : s.storedLinks = .ok links) :
    (∃ tables, s.entities.entries.mapM (fun e => table s.vocabulary links e.1 e.2) = .ok tables) ↔
      ∀ owner field, s.KeepsField owner field → ∃ type, s.HasType owner field type := by
  simp only [Outcome.exists_mapM_eq_ok_iff, exists_table_iff, keepsField_iff_not_dropsField h]
  constructor
  · rintro hall owner field ⟨⟨entity, hentity, hfield⟩, hkept⟩
    obtain ⟨q, hq⟩ := Option.isSome_iff_exists.1 hfield
    obtain ⟨shape, hshape⟩ :=
      hall (owner, entity) (NameMap.find?_eq_some_iff.1 hentity) field q hq hkept
    exact ⟨shape.type, entity, q, shape, hentity, hq, hshape, rfl⟩
  · rintro htypes ⟨owner, entity⟩ he field q hq hkept
    have hentity := NameMap.find?_eq_some_iff.2 he
    obtain ⟨type, entity', q', shape, hentity', hq', hshape, -⟩ := htypes owner field
      ⟨⟨entity, hentity, Option.isSome_iff_exists.2 ⟨q, hq⟩⟩, hkept⟩
    obtain rfl := Option.some.inj (hentity.symm.trans hentity')
    obtain rfl := Option.some.inj (hq.symm.trans hq')
    exact ⟨shape, hshape⟩

/-! ## Natural keys -/

/-- A natural key has its index if all of its fields are columns. -/
theorem exists_keyIndex_iff {entity : String} {t : Table} {position : Nat} {key : NaturalKey} :
    (∃ indexes, keyIndex entity t position key = .ok indexes) ↔
      ∀ field ∈ key.fields, t.HasColumn field := by
  have hmissing : (key.fields.find? fun field => !t.columns.any (·.name = field)) = none ↔
      ∀ field ∈ key.fields, t.HasColumn field := by
    simp [List.find?_eq_none, Table.HasColumn]
  rw [← hmissing, keyIndex]
  by_cases hempty : key.fields = []
  · simp [hempty]
  · rw [if_neg (by simpa using hempty)]
    cases key.fields.find? fun field => !t.columns.any (·.name = field) <;> simp

/-- Natural keys have indexes exactly if all their fields are columns. -/
theorem exists_keyIndexes_iff {entity : String} {t : Table} {position : Nat}
    {keys : List NaturalKey} :
    (∃ indexes, keyIndexes entity t position keys = .ok indexes) ↔
      ∀ key ∈ keys, ∀ field ∈ key.fields, t.HasColumn field := by
  induction keys generalizing position with
  | nil => simp [keyIndexes]
  | cons key rest ih =>
    have hfirst := @exists_keyIndex_iff entity t position key
    have hrest := @ih (position + 1)
    rw [List.forall_mem_cons, ← hfirst, ← hrest]
    simp only [keyIndexes, Outcome.bind_eq_ok_iff]
    constructor
    · rintro ⟨-, index, hindex, indexes, hindexes, -⟩
      exact ⟨⟨index, hindex⟩, indexes, hindexes⟩
    · rintro ⟨⟨index, hindex⟩, indexes, hindexes⟩
      exact ⟨_, index, hindex, indexes, hindexes, rfl⟩

/-- A table has the columns of the properties that are kept. -/
theorem hasColumn_iff_keepsField {links : List StoredLink} (h : s.storedLinks = .ok links)
    {owner field : String} {entity : Entity} {t : Table}
    (hentity : s.entities.find? owner = some entity)
    (ht : table s.vocabulary links owner entity = .ok t) :
    t.HasColumn field ↔ s.KeepsField owner field := by
  rw [Table.HasColumn, (table_eq_ok ht).2.2.1, keepsField_iff_not_dropsField h]
  refine and_congr_left fun _ => ⟨fun hfield => ⟨entity, hentity, hfield⟩, ?_⟩
  rintro ⟨entity', hentity', hfield⟩
  rwa [Option.some.inj (hentity.symm.trans hentity')]

/-- The entities have their indexes if the fields of natural keys stay columns. -/
theorem exists_indexes_iff {links : List StoredLink} {tables : List Table}
    (hnodup : (s.entities.entries.map fun e => Naming.tableName e.1).Nodup)
    (hlinks : s.storedLinks = .ok links)
    (htables : s.entities.entries.mapM (fun e => table s.vocabulary links e.1 e.2) = .ok tables) :
    (∃ indexes, s.entities.entries.mapM (fun e => entityIndexes tables e.1 e.2) = .ok indexes) ↔
      ∀ owner entity, s.entities.find? owner = some entity →
        ∀ key ∈ entity.naturalKeys, ∀ field ∈ key.fields, s.KeepsField owner field := by
  have hnames : (tables.map (·.name)).Nodup := by
    rw [Outcome.map_result_eq htables fun e _ t ht => (table_eq_ok ht).1]
    exact hnodup
  -- The indexes are made of the table that is found by its name, which is the one of the entity.
  have hstep : ∀ owner entity, s.entities.find? owner = some entity →
      ((∃ indexes, entityIndexes tables owner entity = .ok indexes) ↔
        ∀ key ∈ entity.naturalKeys, ∀ field ∈ key.fields, s.KeepsField owner field) := by
    intro owner entity hentity
    obtain ⟨t, ht, htable⟩ :=
      Outcome.exists_result htables (NameMap.find?_eq_some_iff.1 hentity)
    have hname : t.name = Naming.tableName owner := (table_eq_ok htable).1
    have hfind : Table.find? tables (Naming.tableName owner) = some t := by
      refine find?_eq_some_of_unique ht (decide_eq_true hname) fun u hu huname => ?_
      exact List.inj_on_of_nodup_map hnames hu ht ((of_decide_eq_true huname).trans hname.symm)
    rw [entityIndexes, hfind]
    simp only [exists_keyIndexes_iff, hasColumn_iff_keepsField hlinks hentity htable]
  rw [Outcome.exists_mapM_eq_ok_iff]
  constructor
  · intro h owner entity hentity
    exact (hstep owner entity hentity).1 (h (owner, entity) (NameMap.find?_eq_some_iff.1 hentity))
  · rintro h ⟨owner, entity⟩ he
    have hentity := NameMap.find?_eq_some_iff.2 he
    exact (hstep owner entity hentity).2 (h owner entity hentity)

/-! ## Plans -/

/-- **A schema has a plan exactly if it is well-formed.** -/
theorem exists_plan_iff (s : Schema) : (∃ p, s.plan = .ok p) ↔ s.WellFormed := by
  constructor
  · rintro ⟨p, h⟩
    -- Each pass gives one of the conditions, and in the other direction needs it and the passes
    -- before.
    obtain ⟨ps⟩ := plan_eq_ok_iff.1 h
    obtain ⟨hid, htable⟩ := exists_idTypes_iff.1 ⟨_, ps.idTypes_eq⟩
    have hlinks := (exists_links ps.links_eq).1
    exact {
      identifier := hid
      table := htable
      relationship := exists_links_iff.1 ⟨_, hlinks⟩
      storage := (exists_storedLinks_iff hlinks).1 ⟨_, ps.links_eq⟩
      column := (exists_tables_iff ps.links_eq).1 ⟨_, ps.tables_eq⟩
      naturalKey := (exists_indexes_iff (nodup_tableNames_iff.2 htable) ps.links_eq
        ps.tables_eq).1 ⟨_, ps.indexes_eq⟩ }
  · intro h
    obtain ⟨idTypes, hidTypes⟩ := exists_idTypes_iff.2 ⟨h.identifier, h.table⟩
    obtain ⟨ls, hls⟩ := exists_links_iff.2 h.relationship
    obtain ⟨links, hlinks⟩ := (exists_storedLinks_iff hls).2 h.storage
    obtain ⟨tables, htables⟩ := (exists_tables_iff hlinks).2 h.column
    obtain ⟨indexes, hindexes⟩ :=
      (exists_indexes_iff (nodup_tableNames_iff.2 h.table) hlinks htables).2 h.naturalKey
    exact ⟨_, plan_eq_ok_iff.2
      ⟨⟨idTypes, links, tables, indexes, hidTypes, hlinks, htables, hindexes, rfl⟩⟩⟩

end Schema

end EntityModel
