import EntityModel.Proofs.Relational.Columns
import EntityModel.Proofs.Relational.RequiredJoins

/-! # Types of references

A reference leads to the identifiers of a table, and a database compares the two. The columns of a
join table are made for that: they take the type of the identifier of the entity that they lead to.
The column of a foreign key is the one of its own field, and nothing relates the type of the field
to the identifiers of the target. So a join table is always right, and a foreign key is right
exactly where the two properties happen to have one type (`hasIdType_iff`). -/

namespace EntityModel

open Relational

namespace Relational

/-- The table has identifiers of the type. -/
def Table.HasIdType (t : Table) (type : ColumnType) : Prop :=
  ∃ c ∈ t.columns, c.name = "id" ∧ c.type = type

/-- It can be decided whether the identifiers of a table have a type. -/
instance (t : Table) (type : ColumnType) : Decidable (t.HasIdType type) :=
  inferInstanceAs (Decidable (∃ c ∈ t.columns, c.name = "id" ∧ c.type = type))

end Relational

namespace Schema

/-! ## Types of identifiers -/

/-- The type that was found for the identifier of an entity is the one of its property. -/
theorem exists_find?_idTypesFrom {v : Vocabulary} {owners : List (String × String)}
    {entries : List (String × Entity)} {types : List (String × ColumnType)}
    (h : idTypesFrom v owners entries = .ok types) {name : String} {entity : Entity}
    (hentity : Entries.find? name entries = some entity) :
    ∃ type, Entries.find? name types = some type ∧ idType v name entity = .ok type := by
  induction entries generalizing owners types with
  | nil => exact absurd hentity (by simp)
  | cons first rest ih =>
    obtain ⟨-, type, others, htype, hrest, rfl⟩ := idTypesFrom_cons_eq_ok_iff.1 h
    by_cases hname : first.1 = name
    · rw [Entries.find?, if_pos hname, Option.some.injEq] at hentity
      refine ⟨type, by rw [Entries.find?, if_pos hname], ?_⟩
      rw [← hname, ← hentity]
      exact htype
    · rw [Entries.find?, if_neg hname] at hentity ⊢
      exact ih hrest hentity

/-- A field has the same type as another one. -/
def SameType (s : Schema) (owner field target other : String) : Prop :=
  ∃ type, s.HasType owner field type ∧ s.HasType target other type

namespace Passes

variable {s : Schema} {p : Plan} (ps : Passes s p) {t u : Table}

include ps

/-- A column of a join table that leads to an entity has the type of the entity's identifier. -/
theorem hasType_joinColumn {entity : String} (h : s.entities.contains entity = true)
    (name : String) : s.HasType entity "id" (joinColumn ps.idTypes name entity).type := by
  obtain ⟨e, he⟩ := Option.isSome_iff_exists.1 h
  obtain ⟨type, hfind, htype⟩ := exists_find?_idTypesFrom ps.idTypes_eq he
  obtain ⟨q, shape, hq, hshape, -, rfl⟩ := idType_eq_ok_iff.1 htype
  rw [joinColumn, hfind]
  exact ⟨e, q, shape, he, hq, hshape, rfl⟩

/-- Every column of a join table is made for an entity. -/
theorem exists_entity_of_mem_columns {j : JoinTable} (hj : j ∈ p.joinTables) {c : JoinColumn}
    (hc : c ∈ j.columns) :
    ∃ name entity, s.entities.contains entity = true ∧ c = joinColumn ps.idTypes name entity := by
  obtain ⟨l, hl, rfl⟩ := ps.mem_joinTables_iff.1 hj
  have hentities : ∀ {m : StoredLink}, m ∈ ps.links →
      s.entities.contains m.owner = true ∧ s.entities.contains m.target = true := by
    intro m hm
    obtain ⟨hdeclares, -, htarget⟩ := of_mem_storedLinks ps.links_eq hm
    exact ⟨hdeclares.contains_owner, htarget⟩
  rcases ps.joinTable_cases hl with ⟨-, hjoin⟩ | ⟨-, m, hm, -, -, hjoin⟩
  · have howner := (hentities (mem_joinedLinks.1 hl).1).1
    rw [hjoin] at hc
    rcases JoinTable.mem_columns.1 hc with rfl | rfl
    · exact ⟨_, _, howner, rfl⟩
    · exact ⟨_, _, howner, rfl⟩
  · obtain ⟨howner, htarget⟩ := hentities hm
    rw [hjoin] at hc
    rcases JoinTable.mem_columns.1 hc with rfl | rfl
    · exact ⟨_, _, howner, rfl⟩
    · exact ⟨_, _, htarget, rfl⟩

/-- A column has the type of its field. -/
theorem hasType_of_mem_columns (ht : t ∈ p.tables) {c : Column} (hc : c ∈ t.columns) :
    s.HasType t.entity c.name c.type := by
  obtain ⟨entity, q, shape, hentity, hq, -, hshape, hc⟩ := (ps.mem_columns_iff ht).1 hc
  exact ⟨entity, q, shape, hentity, hq, hshape, (congrArg Column.type hc).symm⟩

/-- A table has a column of a type for a property of that type, unless a relationship has taken the
column away. -/
theorem exists_column_iff (ht : t ∈ p.tables) {field : String} {type : ColumnType} :
    (∃ c ∈ t.columns, c.name = field ∧ c.type = type) ↔
      s.HasType t.entity field type ∧ ¬s.DropsField t.entity field := by
  constructor
  · rintro ⟨c, hc, rfl, rfl⟩
    obtain ⟨-, -, -, -, -, hkept, -⟩ := (ps.mem_columns_iff ht).1 hc
    exact ⟨ps.hasType_of_mem_columns ht hc, hkept⟩
  · rintro ⟨⟨entity, q, shape, hentity, hq, hshape, rfl⟩, hkept⟩
    refine ⟨⟨field, shape.type, decide (field = "id") || entity.isRequired field,
      decide (field = "id"), shape.allowed⟩, ?_, rfl, rfl⟩
    exact (ps.mem_columns_iff ht).2 ⟨entity, q, shape, hentity, hq, hkept, hshape, rfl⟩

/-- A table has identifiers of a type if its entity has, unless a relationship takes them away. -/
theorem hasIdType_iff_hasType (ht : t ∈ p.tables) {type : ColumnType} :
    t.HasIdType type ↔ s.HasType t.entity "id" type ∧ ¬s.DropsId t.entity :=
  ps.exists_column_iff ht

end Passes

/-- **A join table has the types of the identifiers that it leads to, and a foreign key has the type
of its own field.** So the columns of a join table always agree with the identifiers of their
tables, and a foreign key agrees with them exactly if its field has the type of the target's
identifier. (Neither agrees with a table that a relationship has left without identifiers.) -/
theorem hasIdType_iff {s : Schema} {p : Plan} (h : s.plan = .ok p) :
    (∀ j ∈ p.joinTables, ∀ c ∈ j.columns, ∃ u ∈ p.tables, u.name = c.references ∧
      s.HasType u.entity "id" c.type ∧ (u.HasIdType c.type ↔ ¬s.DropsId u.entity)) ∧
    ∀ t ∈ p.tables, ∀ key ∈ t.foreignKeys, ∃ c ∈ t.columns, c.name = key.column ∧
      ∃ u ∈ p.tables, u.name = key.references ∧ s.HasType t.entity key.column c.type ∧
        (u.HasIdType c.type ↔
          s.SameType t.entity key.column u.entity "id" ∧ ¬s.DropsId u.entity) := by
  obtain ⟨ps⟩ := plan_eq_ok_iff.1 h
  constructor
  · intro j hj c hc
    obtain ⟨name, entity, hentity, rfl⟩ := ps.exists_entity_of_mem_columns hj hc
    obtain ⟨u, hu, rfl⟩ := ps.exists_table hentity
    have htype := ps.hasType_joinColumn hentity name
    refine ⟨u, hu, ps.name_of_mem hu, htype, ?_⟩
    rw [ps.hasIdType_iff_hasType hu]
    exact and_iff_right htype
  · intro t ht key hkey
    -- The key comes from a link, whose field has a column in the table.
    obtain ⟨l, hl, howner, hd, hfield, hreferences⟩ := ps.exists_link_of_key ht hkey
    have hcolumn : t.HasColumn l.field := by
      rw [ps.hasColumn_iff hl ht howner.symm, hd]
      rfl
    obtain ⟨c, hc, hname⟩ := List.mem_map.1 hcolumn
    obtain ⟨u, hu, hentity⟩ := ps.exists_table (of_mem_storedLinks ps.links_eq hl).2.2
    have hname : c.name = key.column := hname.trans hfield
    have htype := ps.hasType_of_mem_columns ht hc
    rw [hname] at htype
    refine ⟨c, hc, hname, u, hu, ?_, htype, ?_⟩
    · rw [hreferences, ← hentity]
      exact ps.name_of_mem hu
    · rw [ps.hasIdType_iff_hasType hu]
      refine and_congr_left fun _ => ⟨fun hid => ⟨_, htype, hid⟩, ?_⟩
      rintro ⟨type, hown, hid⟩
      rwa [htype.unique hown]

/-- Posts with one main tag and others besides, all of them given by plain texts, although the
identifiers of tags are of another type. -/
def tagged : Schema where
  version := ""
  metadata := ⟨""⟩
  idSemantics := none
  enums := ∅
  definitions := ∅
  entities := .ofList
    [("Post", {
      description := ""
      required := []
      properties := .ofList
        [("id", (Property.primitive "string").withFormat "uuid"),
          ("main_tag_id", .primitive "string"), ("tag_ids", .arrayOf (.primitive "string"))]
      relationships := .ofList
        [("main_tag_id", ⟨"Tag", .zeroOrOne, .automatic⟩),
          ("tag_ids", ⟨"Tag", .zeroOrMany, .automatic⟩)]
      naturalKeys := []
      states := none
      invariants := [] }),
    ("Tag", {
      description := ""
      required := []
      properties := .ofList [("id", (Property.primitive "string").withFormat "uuid")]
      relationships := ∅
      naturalKeys := []
      states := none
      invariants := [] })]

/-- The table of posts, with a text that leads to tags. -/
def postTable : Table :=
  ⟨"posts", "Post", [⟨"id", .uuid, true, true, none⟩, ⟨"main_tag_id", .text, false, false, none⟩],
    [⟨"main_tag_id", "tags", false⟩]⟩

/-- The table of tags. -/
def tagTable : Table := ⟨"tags", "Tag", [⟨"id", .uuid, true, true, none⟩], []⟩

/-- The join table of posts and tags. -/
def postTags : JoinTable :=
  ⟨"posts__tag_ids", ⟨"post_id", .uuid, "posts"⟩, ⟨"tag_id", .uuid, "tags"⟩⟩

/-- The plan of `tagged`. -/
def taggedPlan : Plan where
  tables := [tagTable, postTable]
  joinTables := [postTags]
  indexes := []
  requiredJoins := []

/-- Planning `tagged` makes its plan. -/
theorem plan_tagged : tagged.plan = .ok taggedPlan := by decide +kernel

/-- The join table of `tagged` has the type of the tags' identifiers, and the foreign key has
not. -/
theorem hasIdType_iff_tagged : tagged.plan = .ok taggedPlan ∧
    (∃ u ∈ taggedPlan.tables, u.name = "tags" ∧ u.HasIdType postTags.target.type) ∧
    ∃ c ∈ postTable.columns, c.name = "main_tag_id" ∧
      ∃ u ∈ taggedPlan.tables, u.name = "tags" ∧ ¬u.HasIdType c.type := by
  obtain ⟨hjoins, hkeys⟩ := hasIdType_iff plan_tagged
  have hpost : postTable ∈ taggedPlan.tables := List.mem_cons_of_mem _ (List.mem_singleton_self _)
  have htag : ∀ u ∈ taggedPlan.tables, u.name = "tags" → u.entity = "Tag" := by decide
  have hid : tagged.HasType "Tag" "id" .uuid := ⟨_, _, _, rfl, rfl, rfl, rfl⟩
  refine ⟨plan_tagged, ?_, ?_⟩
  · obtain ⟨u, hu, hname, -, hiff⟩ := hjoins postTags (List.mem_singleton_self _) postTags.target
      (List.mem_cons_of_mem _ (List.mem_singleton_self _))
    refine ⟨u, hu, hname, hiff.2 ?_⟩
    rw [htag u hu hname]
    rintro ⟨-, r, ⟨entity, hentity, hr⟩, -⟩
    obtain rfl := Option.some.inj hentity
    cases hr
  · obtain ⟨c, hc, hcolumn, u, hu, hname, htype, hiff⟩ :=
      hkeys postTable hpost ⟨"main_tag_id", "tags", false⟩ (List.mem_singleton_self _)
    refine ⟨c, hc, hcolumn, u, hu, hname, fun hagrees => ?_⟩
    obtain ⟨⟨type, hown, htarget⟩, -⟩ := hiff.1 hagrees
    have hfield : tagged.HasType "Post" "main_tag_id" .text := ⟨_, _, _, rfl, rfl, rfl, rfl⟩
    rw [htag u hu hname] at htarget
    exact absurd ((hfield.unique hown).trans (htarget.unique hid)) (by decide)

end Schema

end EntityModel
