import EntityModel.Proofs.Relational.ForwardKeys
import EntityModel.Proofs.Relational.LooseTables
import EntityModel.Proofs.Relational.ReferenceTypes
import EntityModel.Proofs.Relational.WellFormed

/-! # Plans of extended schemas

An entity without relationships can be added to a schema that has a plan whenever its own properties
have columns, and the plan gets its table and its indexes and is otherwise the same
(`plan_withEntity`). Each pass is looked at on its own: what it gives for the other entities does
not depend on the new one. -/

namespace EntityModel

open Relational

/-! ## Adding to plans and schemas -/

/-- The second plan is the first one with a table and some indexes added, and nothing else changed:
the tables and indexes of the first plan stand in the same order. -/
structure Relational.Plan.Extends (p : Plan) (t : Table) (own : List UniqueIndex) (q : Plan) :
    Prop where
  /-- The table is one more, and the others are the same, with their marks. -/
  tables : ∃ before after, p.tables = before ++ after ∧ q.tables = before ++ t :: after
  /-- The indexes are added together. -/
  indexes : ∃ before after, p.indexes = before ++ after ∧ q.indexes = before ++ own ++ after
  /-- The join tables are the same. -/
  joinTables : q.joinTables = p.joinTables
  /-- The required joins are the same. -/
  requiredJoins : q.requiredJoins = p.requiredJoins

/-- The properties of the entity have columns: its identifier has the type of one, and the fields of
its natural keys are among its properties. -/
structure Entity.HasColumns (v : Vocabulary) (e : Entity) : Prop where
  /-- There is an identifier. -/
  identifier : ∃ q shape, e.properties.find? "id" = some q ∧ v.columnShape q = .ok shape ∧
    (shape.type = .uuid ∨ shape.type = .text)
  /-- Every property has a column. -/
  column : ∀ field q, e.properties.find? field = some q → ∃ shape, v.columnShape q = .ok shape
  /-- Natural keys are made of properties. -/
  naturalKey : ∀ key ∈ e.naturalKeys, ∀ field ∈ key.fields, e.properties.contains field = true

namespace Schema

/-- The schema with one more entity. -/
def withEntity (s : Schema) (name : String) (e : Entity) : Schema :=
  { s with entities := s.entities.insert name e }

/-- The entity can be added to the schema under the name: both the name and the name of its table
are new, and it has no relationships. -/
structure IsNew (s : Schema) (name : String) (e : Entity) : Prop where
  /-- The name is new. -/
  contains_eq : s.entities.contains name = false
  /-- The table is new. -/
  tableName_ne : ∀ other, s.entities.contains other = true →
    Naming.tableName other ≠ Naming.tableName name
  /-- There are no relationships. -/
  relationships_eq : e.relationships.entries = []

namespace IsNew

variable {s : Schema} {name : String} {e : Entity} (h : s.IsNew name e)

include h

/-- An entity that is there is not called like the new one. -/
theorem ne_of_contains {other : String} (hother : s.entities.contains other = true) :
    other ≠ name := by
  rintro rfl
  exact Bool.false_ne_true (h.contains_eq.symm.trans hother)

/-- The new entity leaves the others as they are. -/
theorem find?_withEntity {other : String} (hother : s.entities.contains other = true) :
    (s.withEntity name e).entities.find? other = s.entities.find? other :=
  NameMap.find?_insert_of_ne _ (h.ne_of_contains hother).symm e

/-- The new entity leaves the others there. -/
theorem contains_withEntity {other : String} (hother : s.entities.contains other = true) :
    (s.withEntity name e).entities.contains other = true := by
  rw [NameMap.contains, h.find?_withEntity hother]
  exact hother

/-- The entity stands somewhere between the others. -/
theorem exists_entries : ∃ before after, s.entities.entries = before ++ after ∧
    (s.withEntity name e).entities.entries = before ++ (name, e) :: after := by
  refine Entries.exists_insert_eq_append (fun hmem => ?_) e
  have hcontains := h.contains_eq
  rw [NameMap.contains_iff.2 hmem] at hcontains
  cases hcontains

end IsNew

end Schema

/-! ## Finding tables -/

/-- A table of another name changes nothing about what is found. -/
theorem Relational.Table.find?_append_cons_of_ne {before after : List Table} {t : Table}
    {name : String} (h : t.name ≠ name) :
    find? (before ++ t :: after) name = find? (before ++ after) name := by
  rw [find?, find?, List.find?_append, List.find?_append, List.find?_cons_of_neg (by simpa using h)]

/-- A table is found behind tables of other names. -/
theorem Relational.Table.find?_append_cons_self {before after : List Table} {t : Table}
    (h : t.name ∉ before.map (·.name)) : find? (before ++ t :: after) t.name = some t := by
  have hnone : before.find? (·.name = t.name) = none := by
    refine List.find?_eq_none.2 fun u hu heq => h ?_
    exact List.mem_map.2 ⟨u, hu, of_decide_eq_true heq⟩
  rw [find?, List.find?_append, hnone, Option.none_or, List.find?_cons_of_pos (by simp)]

namespace Schema

/-! ## Passes over the extended schema -/

/-- A join table depends on the identifiers of the two entities that it connects. -/
theorem joinTable_congr {types others : List (String × ColumnType)} (links : List StoredLink)
    {l : StoredLink} (howner : Entries.find? l.owner types = Entries.find? l.owner others)
    (htarget : Entries.find? l.target types = Entries.find? l.target others) :
    joinTable types links l = joinTable others links l := by
  have hcolumn : ∀ field, joinColumn types field l.owner = joinColumn others field l.owner ∧
      joinColumn types field l.target = joinColumn others field l.target := by
    intro field
    rw [joinColumn, joinColumn, joinColumn, joinColumn, howner, htarget]
    exact ⟨rfl, rfl⟩
  simp only [joinTable, joinBetween, hcolumn]

/-- An entity that is an entry is there. -/
theorem contains_of_mem {s : Schema} {x : String × Entity} (h : x ∈ s.entities.entries) :
    s.entities.contains x.1 = true :=
  NameMap.contains_iff.2 (List.mem_map.2 ⟨x, h, rfl⟩)

/-- No link has the new entity. -/
theorem linksOf_eq_nil {s : Schema} {links : List StoredLink} (hlinks : s.storedLinks = .ok links)
    {name : String} (h : s.entities.contains name = false) : linksOf links name = [] := by
  refine List.filter_eq_nil_iff.2 fun l hl howner => ?_
  obtain ⟨⟨entity, hentity, -⟩, -, -⟩ := of_mem_storedLinks hlinks hl
  rw [of_decide_eq_true howner] at hentity
  rw [NameMap.contains, hentity] at h
  cases h

namespace Passes

variable {s : Schema} {p : Plan} (ps : Passes s p) {name : String} {e : Entity}
  (hnew : s.IsNew name e)

include ps hnew

/-- The other identifiers have the types that they had. -/
theorem exists_idTypes_withEntity {type : ColumnType}
    (htype : idType s.vocabulary name e = .ok type) :
    ∃ types, (s.withEntity name e).idTypes = .ok types ∧
      ∀ other, s.entities.contains other = true →
        Entries.find? other types = Entries.find? other ps.idTypes := by
  obtain ⟨before, after, hentries, hentries'⟩ := hnew.exists_entries
  have htables := (nodup_tableNames_of_idTypesFrom ps.idTypes_eq).1
  obtain ⟨types, htypes⟩ : ∃ types, (s.withEntity name e).idTypes = .ok types := by
    refine exists_idTypesFrom_iff.2 ⟨?_, ?_, fun _ _ => rfl⟩
    · intro x hx
      rcases Entries.mem_insert hx with rfl | hx
      · exact ⟨type, htype⟩
      · exact exists_idType ps.idTypes_eq hx
    · rw [hentries', List.map_append, List.map_cons, List.nodup_middle, ← List.map_append,
        ← hentries]
      refine List.nodup_cons.2 ⟨fun hmem => ?_, htables⟩
      obtain ⟨x, hx, heq⟩ := List.mem_map.1 hmem
      exact hnew.tableName_ne x.1 (contains_of_mem hx) heq
  -- Each of the two lists has the type of the entity's own identifier.
  refine ⟨types, htypes, fun other hother => ?_⟩
  obtain ⟨entity, hentity⟩ := Option.isSome_iff_exists.1 hother
  obtain ⟨a, hfind, ha⟩ := exists_find?_idTypesFrom ps.idTypes_eq hentity
  obtain ⟨b, hfind', hb⟩ :=
    exists_find?_idTypesFrom htypes ((hnew.find?_withEntity hother).trans hentity)
  rw [hfind, hfind', Except.ok.inj (hb.symm.trans ha)]

/-- The links are the same. -/
theorem storedLinks_withEntity : (s.withEntity name e).storedLinks = .ok ps.links := by
  obtain ⟨before, after, hentries, hentries'⟩ := hnew.exists_entries
  obtain ⟨ls, hls, hstored⟩ := Outcome.bind_eq_ok_iff.1 ps.links_eq
  obtain ⟨ofEntities, hof, hflatten⟩ := Outcome.bind_eq_ok_iff.1 hls
  obtain rfl := Except.ok.inj hflatten
  have hnone : e.relationships.entries.mapM (fun r => (s.withEntity name e).link name e r.1 r.2) =
      .ok [] := by
    rw [hnew.relationships_eq]
    rfl
  -- The links of the others stay, for their targets are still there.
  have hsame : ∀ x ∈ before ++ after, ∀ ls : List Link,
      x.2.relationships.entries.mapM (fun r => s.link x.1 x.2 r.1 r.2) = .ok ls →
        x.2.relationships.entries.mapM
          (fun r => (s.withEntity name e).link x.1 x.2 r.1 r.2) = .ok ls := by
    intro x _ ls hpass
    refine Outcome.mapM_eq_ok_of_imp hpass fun r _ l hl => ?_
    obtain ⟨q, isArray, hq, htarget, harray, rfl⟩ := link_eq_ok_iff.1 hl
    exact link_eq_ok_iff.2 ⟨q, isArray, hq, hnew.contains_withEntity htarget, harray, rfl⟩
  rw [hentries] at hof
  obtain ⟨front, back, rfl, hpass⟩ :=
    Outcome.exists_mapM_insert (x := (name, e)) (y := []) hof hsame hnone
  refine Outcome.bind_eq_ok_iff.2 ⟨_, Outcome.bind_eq_ok_iff.2 ⟨_, hentries' ▸ hpass, rfl⟩, ?_⟩
  simpa using hstored

/-- The table of the entity is one more, and the others are the same. -/
theorem exists_tables_withEntity {t : Table} (ht : table s.vocabulary ps.links name e = .ok t) :
    ∃ before after, ps.tables = before ++ after ∧ (s.withEntity name e).entities.entries.mapM
      (fun x => table s.vocabulary ps.links x.1 x.2) = .ok (before ++ t :: after) := by
  obtain ⟨before, after, hentries, hentries'⟩ := hnew.exists_entries
  have htables := ps.tables_eq
  rw [hentries] at htables
  rw [hentries']
  exact Outcome.exists_mapM_insert (x := (name, e)) htables (fun _ _ _ h => h) ht

/-- None of the other tables has the name of the new one. -/
theorem tableName_notMem : Naming.tableName name ∉ ps.tables.map (·.name) := by
  rw [ps.map_name_tables]
  intro hmem
  obtain ⟨other, hother, heq⟩ := List.mem_map.1 hmem
  exact hnew.tableName_ne other (NameMap.contains_iff.2 hother) heq

/-- The table refers to no other one, and none refers to it. -/
theorem isLoose {t : Table} (ht : table s.vocabulary ps.links name e = .ok t)
    {tables : List Table} (htables : ∀ u ∈ tables, u = t ∨ u ∈ ps.tables) :
    Table.IsLoose tables t := by
  obtain ⟨hname, -, -, hkeys⟩ := table_eq_ok ht
  rw [linksOf_eq_nil ps.links_eq hnew.contains_eq, List.filter_nil, List.map_nil] at hkeys
  refine ⟨hkeys, fun u hu key hkey heq => ?_⟩
  rcases htables u hu with rfl | hu
  · rw [hkeys] at hkey
    exact List.not_mem_nil hkey
  · obtain ⟨x, -, hx⟩ := Outcome.exists_source ps.tables_eq hu
    rw [(table_eq_ok hx).2.2.2] at hkey
    obtain ⟨l, hl, rfl⟩ := List.mem_map.1 hkey
    have htarget := (of_mem_storedLinks ps.links_eq (mem_linksOf.1 (List.mem_filter.1 hl).1).1).2.2
    exact hnew.tableName_ne _ htarget (heq.trans hname)

/-- The indexes of the new entity are those of its own table. -/
theorem entityIndexes_eq_keyIndexes {before after : List Table} {t : Table}
    (htables : ps.tables = before ++ after) (hname : t.name = Naming.tableName name) :
    entityIndexes (before ++ t :: after) name e = keyIndexes name t 1 e.naturalKeys := by
  have hnotMem := ps.tableName_notMem hnew
  rw [htables, List.map_append, ← hname] at hnotMem
  rw [entityIndexes, ← hname,
    Table.find?_append_cons_self fun hmem => hnotMem (List.mem_append_left _ hmem)]

/-- The indexes of the other entities are the same. -/
theorem exists_indexes_withEntity {before after : List Table} {t : Table}
    {own : List UniqueIndex} (htables : ps.tables = before ++ after)
    (hname : t.name = Naming.tableName name)
    (hown : keyIndexes name t 1 e.naturalKeys = .ok own) :
    ∃ front back, ps.indexes = front ++ back ∧ (s.withEntity name e).entities.entries.mapM
      (fun x => entityIndexes (before ++ t :: after) x.1 x.2) = .ok (front ++ own :: back) := by
  obtain ⟨first, rest, hentries, hentries'⟩ := hnew.exists_entries
  have hindexes := ps.indexes_eq
  rw [hentries] at hindexes
  rw [hentries']
  -- The new table has another name, so the others find their tables as before.
  have hother : ∀ x ∈ first ++ rest, ∀ indexes, entityIndexes ps.tables x.1 x.2 = .ok indexes →
      entityIndexes (before ++ t :: after) x.1 x.2 = .ok indexes := by
    intro x hx indexes h
    have hcontains : s.entities.contains x.1 = true := contains_of_mem (hentries ▸ hx)
    have hne : t.name ≠ Naming.tableName x.1 := by
      rw [hname]
      exact (hnew.tableName_ne x.1 hcontains).symm
    rw [entityIndexes, Table.find?_append_cons_of_ne hne, ← htables]
    exact h
  have hself := (ps.entityIndexes_eq_keyIndexes hnew htables hname).trans hown
  exact Outcome.exists_mapM_insert (x := (name, e)) hindexes hother hself

/-- The join tables and the required joins are the same. -/
theorem joins_withEntity {types : List (String × ColumnType)}
    (htypes : ∀ other, s.entities.contains other = true →
      Entries.find? other types = Entries.find? other ps.idTypes) :
    joinTables types ps.links = joinTables ps.idTypes ps.links ∧
      (s.withEntity name e).requiredJoins types ps.links = s.requiredJoins ps.idTypes ps.links := by
  -- A join table depends on the types of two identifiers, which are the same as before.
  have hlink : ∀ l ∈ ps.links, s.entities.contains l.owner = true ∧
      joinTable types ps.links l = joinTable ps.idTypes ps.links l := by
    intro l hl
    obtain ⟨⟨entity, hentity, -⟩, -, htarget⟩ := of_mem_storedLinks ps.links_eq hl
    have howner : s.entities.contains l.owner = true := Option.isSome_iff_exists.2 ⟨entity, hentity⟩
    exact ⟨howner, joinTable_congr ps.links (htypes _ howner) (htypes _ htarget)⟩
  have hjoined : ∀ l ∈ joinedLinks ps.links, l ∈ ps.links := fun l hl => (List.mem_filter.1 hl).1
  constructor
  · have hnamed : (joinedLinks ps.links).map (fun l =>
          ((joinTable types ps.links l).name, joinTable types ps.links l)) =
        (joinedLinks ps.links).map fun l =>
          ((joinTable ps.idTypes ps.links l).name, joinTable ps.idTypes ps.links l) :=
      List.map_congr_left fun l hl => by rw [(hlink l (hjoined l hl)).2]
    simp only [joinTables, hnamed]
  · have hrequired : (joinedLinks ps.links).filter (s.withEntity name e).isRequiredLink =
        (joinedLinks ps.links).filter s.isRequiredLink := by
      refine List.filter_congr fun l hl => ?_
      rw [isRequiredLink, isRequiredLink, hnew.find?_withEntity (hlink l (hjoined l hl)).1]
    rw [requiredJoins, requiredJoins, hrequired]
    refine List.foldl_ext _ _ _ fun acc l hl => ?_
    simp only [requiredJoin, (hlink l (hjoined l (List.mem_filter.1 hl).1)).2]

/-- Where the new entity has a type for its identifier, a table and indexes, the extended schema has
a plan, which is the one of the schema with these added. -/
theorem exists_extends {type : ColumnType} (htype : idType s.vocabulary name e = .ok type)
    {t : Table} (ht : table s.vocabulary ps.links name e = .ok t) {own : List UniqueIndex}
    (hown : keyIndexes name t 1 e.naturalKeys = .ok own) :
    ∃ q, (s.withEntity name e).plan = .ok q ∧ p.Extends t own q := by
  obtain ⟨types, hidTypes, htypes⟩ := ps.exists_idTypes_withEntity hnew htype
  obtain ⟨front, back, htables, hpass⟩ := ps.exists_tables_withEntity hnew ht
  obtain ⟨hname, -, -, hkeys⟩ := table_eq_ok ht
  obtain ⟨is, js, hindexes, hindexPass⟩ := ps.exists_indexes_withEntity hnew htables hname hown
  obtain ⟨hjoins, hrequired⟩ := ps.joins_withEntity hnew htypes
  have hplan : (s.withEntity name e).plan = .ok {
      tables := Table.creationOrder (front ++ t :: back)
      joinTables := joinTables types ps.links
      indexes := (is ++ own :: js).flatten
      requiredJoins := (s.withEntity name e).requiredJoins types ps.links } :=
    plan_eq_ok_iff.2 ⟨⟨types, ps.links, _, _, hidTypes, ps.storedLinks_withEntity hnew, hpass,
      hindexPass, rfl⟩⟩
  -- The tables are put in order after they were made, the other parts are as the passes gave them.
  refine ⟨_, hplan, ?_, ⟨is.flatten, js.flatten, ?_, by simp⟩, ?_, ?_⟩
  · have hnodup : ((front ++ t :: back).map (·.name)).Nodup := by
      rw [List.map_append, List.map_cons, List.nodup_middle, ← List.map_append, ← htables, hname]
      exact List.nodup_cons.2 ⟨ps.tableName_notMem hnew, ps.nodup_names_tables⟩
    have hloose : Table.IsLoose (front ++ t :: back) t := by
      refine ps.isLoose hnew ht fun u hu => ?_
      rw [htables]
      simpa [or_left_comm] using hu
    rw [ps.tables_eq_creationOrder, htables]
    exact Table.exists_creationOrder_insert hnodup hloose
  · rw [ps.indexes_eq_flatten, hindexes, List.flatten_append]
  · rw [ps.joinTables_eq]
    exact hjoins
  · rw [ps.requiredJoins_eq]
    exact hrequired

end Passes

/-! ## One more entity -/

/-- An entity without links has columns if it has a type for its identifier, a table and indexes. -/
theorem hasColumns_iff {v : Vocabulary} {name : String} {e : Entity} :
    e.HasColumns v ↔ (∃ type, idType v name e = .ok type) ∧ ∃ t own,
      table v [] name e = .ok t ∧ keyIndexes name t 1 e.naturalKeys = .ok own := by
  have hid : (∃ type, idType v name e = .ok type) ↔ ∃ q shape, e.properties.find? "id" = some q ∧
      v.columnShape q = .ok shape ∧ (shape.type = .uuid ∨ shape.type = .text) := by
    simp only [idType_eq_ok_iff, ← ColumnType.isIdentifier_iff]
    exact ⟨fun ⟨_, q, shape, hq, hshape, hid, _⟩ => ⟨q, shape, hq, hshape, hid⟩,
      fun ⟨q, shape, hq, hshape, hid⟩ => ⟨_, q, shape, hq, hshape, hid, rfl⟩⟩
  -- Without links every property stays a column.
  have htable : (∃ t, table v [] name e = .ok t) ↔
      ∀ field q, e.properties.find? field = some q → ∃ shape, v.columnShape q = .ok shape := by
    rw [exists_table_iff]
    exact forall₃_congr fun _ _ _ => forall_prop_of_true rfl
  have hkeys : ∀ {t}, table v [] name e = .ok t →
      ((∃ own, keyIndexes name t 1 e.naturalKeys = .ok own) ↔
        ∀ key ∈ e.naturalKeys, ∀ field ∈ key.fields, e.properties.contains field = true) := by
    intro t ht
    rw [exists_keyIndexes_iff]
    refine forall₄_congr fun key _ field _ => ?_
    rw [Table.HasColumn, (table_eq_ok ht).2.2.1]
    exact and_iff_left rfl
  constructor
  · rintro ⟨hidentifier, hcolumn, hnatural⟩
    obtain ⟨t, ht⟩ := htable.2 hcolumn
    obtain ⟨own, hown⟩ := (hkeys ht).2 hnatural
    exact ⟨hid.2 hidentifier, t, own, ht, hown⟩
  · rintro ⟨hidentifier, t, own, ht, hown⟩
    exact ⟨hid.1 hidentifier, htable.1 ⟨t, ht⟩, (hkeys ht).1 ⟨own, hown⟩⟩

/-- The table of a new entity is made without links. -/
theorem table_eq_of_isNew {s : Schema} {links : List StoredLink}
    (hlinks : s.storedLinks = .ok links) {name : String} {e : Entity} (hnew : s.IsNew name e) :
    table s.vocabulary links name e = table s.vocabulary [] name e := by
  have hnone : linksOf links name = linksOf [] name := linksOf_eq_nil hlinks hnew.contains_eq
  rw [table, table, hnone]

/-- If the extended schema has a plan, the new entity has columns. -/
theorem hasColumns_of_plan {s : Schema} {p q : Plan} (ps : Passes s p) {name : String} {e : Entity}
    (hnew : s.IsNew name e) (hq : (s.withEntity name e).plan = .ok q) :
    e.HasColumns s.vocabulary := by
  obtain ⟨qs⟩ := plan_eq_ok_iff.1 hq
  have hmem : (name, e) ∈ (s.withEntity name e).entities.entries :=
    NameMap.find?_eq_some_iff.1 (NameMap.find?_insert_self ..)
  have hlinks : qs.links = ps.links :=
    Except.ok.inj (qs.links_eq.symm.trans (ps.storedLinks_withEntity hnew))
  -- The table of the entity was made, so that the pass over the indexes finds it.
  obtain ⟨t, -, hstep⟩ := Outcome.exists_result qs.tables_eq hmem
  have ht : table s.vocabulary ps.links name e = .ok t := hlinks ▸ hstep
  obtain ⟨front, back, htables, hpass⟩ := ps.exists_tables_withEntity hnew ht
  have htables' : qs.tables = front ++ t :: back :=
    Except.ok.inj ((hlinks ▸ qs.tables_eq).symm.trans hpass)
  obtain ⟨own, -, hown⟩ := Outcome.exists_result qs.indexes_eq hmem
  rw [htables', ps.entityIndexes_eq_keyIndexes hnew htables (table_eq_ok ht).1] at hown
  exact hasColumns_iff.2 ⟨exists_idType qs.idTypes_eq hmem, t, own,
    (table_eq_of_isNew ps.links_eq hnew).symm.trans ht, hown⟩

/-- **Planning is local.** An entity without relationships, whose name and table are new, can be
added to a schema that has a plan exactly if its properties have columns, its identifier the one of
an identifier, and if its natural keys are made of its properties. Then its table and its indexes
are added to the plan, which is otherwise the same: the other tables keep their order, and the marks
of their foreign keys. -/
theorem plan_withEntity {s : Schema} {p : Plan} (hp : s.plan = .ok p) {name : String} {e : Entity}
    (hnew : s.IsNew name e) :
    ((∃ q, (s.withEntity name e).plan = .ok q) ↔ e.HasColumns s.vocabulary) ∧
      ∀ q, (s.withEntity name e).plan = .ok q → ∃ t own,
        table s.vocabulary [] name e = .ok t ∧ t.foreignKeys = [] ∧
          keyIndexes name t 1 e.naturalKeys = .ok own ∧ p.Extends t own q := by
  obtain ⟨ps⟩ := plan_eq_ok_iff.1 hp
  have hextends : e.HasColumns s.vocabulary → ∃ t own q, table s.vocabulary [] name e = .ok t ∧
      keyIndexes name t 1 e.naturalKeys = .ok own ∧ (s.withEntity name e).plan = .ok q ∧
      p.Extends t own q := by
    intro h
    obtain ⟨⟨type, htype⟩, t, own, ht, hown⟩ := hasColumns_iff.1 h
    obtain ⟨q, hq, hextends⟩ :=
      ps.exists_extends hnew htype ((table_eq_of_isNew ps.links_eq hnew).trans ht) hown
    exact ⟨t, own, q, ht, hown, hq, hextends⟩
  refine ⟨⟨fun ⟨q, hq⟩ => hasColumns_of_plan ps hnew hq, fun h => ?_⟩, fun q hq => ?_⟩
  · obtain ⟨t, own, q, -, -, hq, -⟩ := hextends h
    exact ⟨q, hq⟩
  · obtain ⟨t, own, q', ht, hown, hq', hextends⟩ := hextends (hasColumns_of_plan ps hnew hq)
    obtain rfl := Except.ok.inj (hq.symm.trans hq')
    exact ⟨t, own, ht, (table_eq_ok ht).2.2.2, hown, hextends⟩

/-- Bees have an identifier and a name, which is a natural key. -/
def bee (idType : String) : Entity where
  description := ""
  required := []
  properties := .ofList [("id", .primitive idType), ("name", .primitive "string")]
  relationships := ∅
  naturalKeys := [⟨["name"], "", ""⟩]
  states := none
  invariants := []

/-- Bees can be added to the savanna: no entity has their name or their table, and they have no
relationships. -/
theorem isNew_bee (idType : String) : savanna.IsNew "Bee" (bee idType) where
  contains_eq := by decide
  tableName_ne := by
    have hnames : savanna.entities.names.all (Naming.tableName · ≠ Naming.tableName "Bee") := by
      decide
    intro other hother
    exact of_decide_eq_true (List.all_eq_true.1 hnames other (NameMap.contains_iff.1 hother))
  relationships_eq := rfl

/-- The identifier of a bee has the type that is asked for. -/
theorem find?_id_bee (idType : String) :
    (bee idType).properties.find? "id" = some (.primitive idType) := by
  simp [bee, NameMap.find?, NameMap.ofList, Entries.find?_ofList, Entries.find?]

/-- Every property has a column if the identifier has one. -/
theorem exists_columnShape_bee {idType : String}
    (h : ∃ shape, savanna.vocabulary.columnShape (.primitive idType) = .ok shape) :
    ∀ field q, (bee idType).properties.find? field = some q →
      ∃ shape, savanna.vocabulary.columnShape q = .ok shape := by
  intro field q hq
  have hmem := Entries.mem_ofList (NameMap.find?_eq_some_iff.1 hq)
  simp only [List.mem_cons, Prod.mk.injEq, List.not_mem_nil, or_false] at hmem
  rcases hmem with ⟨-, rfl⟩ | ⟨-, rfl⟩
  · exact h
  · exact ⟨⟨.text, none⟩, rfl⟩

/-- The table of the bees. -/
def bees : Table := ⟨"bees", "Bee",
  [⟨"id", .text, true, true, none⟩, ⟨"name", .text, false, false, none⟩], []⟩

/-- The bees are created at a step at which a circle of the others had to be broken. -/
theorem plan_withEntity_bee : savanna.plan = .ok savannaPlan ∧ savanna.IsNew "Bee" (bee "string") ∧
    ∃ q, (savanna.withEntity "Bee" (bee "string")).plan = .ok q ∧
      savannaPlan.Extends bees [⟨"idx_bees_nk_1", "bees", ["name"]⟩] q := by
  have hnew := isNew_bee "string"
  obtain ⟨hiff, hextends⟩ := plan_withEntity plan_savanna hnew
  have hcolumns : (bee "string").HasColumns savanna.vocabulary :=
    ⟨⟨_, ⟨.text, none⟩, find?_id_bee "string", rfl, .inr rfl⟩,
      exists_columnShape_bee ⟨⟨.text, none⟩, rfl⟩, by decide +kernel⟩
  obtain ⟨q, hq⟩ := hiff.2 hcolumns
  obtain ⟨t, own, ht, -, hown, hq'⟩ := hextends q hq
  have hbees : table savanna.vocabulary [] "Bee" (bee "string") = .ok bees := by decide +kernel
  obtain rfl := Except.ok.inj (hbees.symm.trans ht)
  have hindexes : keyIndexes "Bee" bees 1 (bee "string").naturalKeys =
      .ok [⟨"idx_bees_nk_1", "bees", ["name"]⟩] := by decide +kernel
  obtain rfl := Except.ok.inj (hindexes.symm.trans hown)
  exact ⟨plan_savanna, hnew, q, hq, hq'⟩

/-- It is not enough that the identifier has a column: it must be one for identifiers. -/
theorem not_plan_withEntity_integer : savanna.plan = .ok savannaPlan ∧
    savanna.IsNew "Bee" (bee "integer") ∧
    (∃ q shape, (bee "integer").properties.find? "id" = some q ∧
      savanna.vocabulary.columnShape q = .ok shape) ∧
    (∀ field q, (bee "integer").properties.find? field = some q →
      ∃ shape, savanna.vocabulary.columnShape q = .ok shape) ∧
    (∀ key ∈ (bee "integer").naturalKeys, ∀ field ∈ key.fields,
      (bee "integer").properties.contains field = true) ∧
    ∀ q, (savanna.withEntity "Bee" (bee "integer")).plan ≠ .ok q := by
  refine ⟨plan_savanna, isNew_bee "integer",
    ⟨_, ⟨.integer, none⟩, find?_id_bee "integer", rfl⟩,
    exists_columnShape_bee ⟨⟨.integer, none⟩, rfl⟩, by decide +kernel, fun q hq => ?_⟩
  have herror : (savanna.withEntity "Bee" (bee "integer")).plan = .error (.invalidId "Bee") := by
    decide +kernel
  cases herror.symm.trans hq

end Schema

end EntityModel
