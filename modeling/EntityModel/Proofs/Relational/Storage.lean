import EntityModel.Proofs.Relational.JoinTables

/-! # Relationships in a plan

Columns, foreign keys and join tables are made by different passes, and each of them asks how a
relationship is stored. They agree: a relationship has exactly one place in the plan
(`existsUnique_place`), and nothing in the plan is there without a relationship. -/

namespace EntityModel

open Relational

namespace Relational

/-- The table has a column of the name. -/
def Table.HasColumn (t : Table) (name : String) : Prop := name ∈ t.columns.map (·.name)

/-- The foreign keys on a column. -/
def Table.keysOn (t : Table) (column : String) : List ForeignKey :=
  t.foreignKeys.filter (·.column = column)

/-- The keys on a column are the keys of the table that start from it. -/
theorem Table.mem_keysOn {t : Table} {column : String} {key : ForeignKey} :
    key ∈ t.keysOn column ↔ key ∈ t.foreignKeys ∧ key.column = column := by
  simp [keysOn]

/-- The join table leads to the two tables, with one column to each. -/
def JoinTable.Connects (j : JoinTable) (a b : String) : Prop :=
  (j.owner.references = a ∧ j.target.references = b) ∨
    (j.owner.references = b ∧ j.target.references = a)

end Relational

namespace Schema

/-! ## Places -/

/-- The join table has the name that the field gives it, or the one that its other half gives. -/
def standsFor (links : List StoredLink) (owner field : String) (j : JoinTable) : Bool :=
  j.name = joinName owner field || links.any fun l =>
    l.owner = owner && l.field = field && links.any fun other =>
      l.IsHalfOf other && j.name = joinName other.owner other.field

/-- The places for a relationship in a plan. -/
inductive Place where
  /-- A column with a foreign key. -/
  | foreignKey
  /-- A column that holds a document. -/
  | document
  /-- The foreign key of the target. -/
  | inverseKey
  /-- A join table. -/
  | joinTable
  deriving DecidableEq, Repr

/-- The relationship has the place in the plan. The links say only which fields share a join table;
all else is read off the plan and the schema, and not off the decision about the relationship. -/
def StoredIn (s : Schema) (p : Plan) (links : List StoredLink) (owner field : String)
    (r : Relationship) (place : Place) : Prop :=
  ∃ t ∈ p.tables, ∃ u ∈ p.tables, t.entity = owner ∧ u.entity = r.target ∧
    match place with
    | .foreignKey => s.HasShape owner field false ∧ t.HasColumn field ∧
        ∃ key, t.keysOn field = [key] ∧ key.references = u.name
    | .document => s.HasShape owner field true ∧ r.storage = .json ∧ t.HasColumn field ∧
        t.keysOn field = []
    | .inverseKey => ¬t.HasColumn field ∧ p.joinTables.filter (standsFor links owner field) = [] ∧
        ∃ key ∈ u.foreignKeys, u.HasColumn key.column ∧ key.references = t.name
    | .joinTable => ¬t.HasColumn field ∧
        ∃ j, p.joinTables.filter (standsFor links owner field) = [j] ∧ j.Connects t.name u.name

/-- The place that a decision leads to. -/
def placeOf : StorageDecision → Place
  | .foreignKey => .foreignKey
  | .json => .document
  | .derived => .inverseKey
  | .joinTable | .selfJoinTable | .sharedJoinTable => .joinTable

namespace Passes

variable {s : Schema} {p : Plan} (ps : Passes s p) {t u : Table} {l : StoredLink}

include ps

/-! ## Columns and foreign keys -/

/-- Of the links of its entity, a link is the only one of its field. -/
theorem eq_of_mem_linksOf {m : StoredLink} (hl : l ∈ ps.links)
    (hm : m ∈ linksOf ps.links l.owner) (hfield : m.field = l.field) : m = l := by
  obtain ⟨hm, howner⟩ := mem_linksOf.1 hm
  exact eq_of_field_eq ps.links_eq hm hl howner hfield

/-- A table keeps the column of a link if the decision about it says so. -/
theorem hasColumn_iff (hl : l ∈ ps.links) (ht : t ∈ p.tables) (howner : t.entity = l.owner) :
    t.HasColumn l.field ↔ l.decision.keepsColumn = true := by
  obtain ⟨entity, hentity, htable⟩ := ps.exists_entity_of_mem ht
  obtain ⟨entity', q, hentity', hq, -⟩ := (of_mem_storedLinks ps.links_eq hl).2.1
  rw [howner, hentity'] at hentity
  obtain rfl := Option.some.inj hentity
  have hproperty : entity'.properties.contains l.field = true := by
    rw [NameMap.contains, hq]
    rfl
  have hcolumns := (table_eq_ok htable).2.2.1 l.field
  rw [howner, hproperty] at hcolumns
  -- The decision that matters is the one of the only link with this field.
  have hdropped : keepsField (linksOf ps.links l.owner) l.field = false ↔
      l.decision.keepsColumn = false := by
    rw [keepsField_eq_false_iff]
    constructor
    · rintro ⟨m, hm, hfield, hdrops⟩
      rwa [← ps.eq_of_mem_linksOf hl hm hfield]
    · intro hdrops
      exact ⟨l, mem_linksOf.2 ⟨hl, rfl⟩, rfl, hdrops⟩
  rw [Table.HasColumn, show t.columns = t.unmarked.columns from rfl, hcolumns,
    ← not_iff_not, Bool.not_eq_true, ← hdropped]
  simp

/-- The keys on a link's field are the key of the link, if it has one. -/
theorem map_unmarked_keysOn (hl : l ∈ ps.links) (ht : t ∈ p.tables) (howner : t.entity = l.owner) :
    (t.keysOn l.field).map ForeignKey.unmarked =
      if l.decision = .foreignKey then [foreignKey l] else [] := by
  have hkeys : (t.keysOn l.field).map ForeignKey.unmarked =
      (((linksOf ps.links l.owner).filter (·.decision = .foreignKey)).filter
        (·.field = l.field)).map foreignKey := by
    -- Unmarking a key keeps its column, so the keys of a field can be picked before or after.
    have hmarked := ps.map_unmarked_foreignKeys ht
    rw [howner] at hmarked
    have hfilter := congrArg (List.filter (·.column = l.field)) hmarked
    rw [List.filter_map, List.filter_map] at hfilter
    rw [Table.keysOn]
    exact hfilter
  have hnodup : ((linksOf ps.links l.owner).filter (·.decision = .foreignKey)).Nodup :=
    ((nodup_stored_keys ps.links_eq).of_map.filter _).filter _
  rw [hkeys]
  split
  · rename_i hd
    have hmem : l ∈ (linksOf ps.links l.owner).filter (·.decision = .foreignKey) :=
      List.mem_filter.2 ⟨mem_linksOf.2 ⟨hl, rfl⟩, decide_eq_true hd⟩
    rw [filter_eq_singleton_of_nodup hnodup hmem fun m hm => ?_, List.map_singleton]
    rw [decide_eq_true_iff]
    exact ⟨ps.eq_of_mem_linksOf hl (List.mem_filter.1 hm).1, fun heq => heq ▸ rfl⟩
  · rename_i hd
    rw [List.map_eq_nil_iff, List.filter_eq_nil_iff]
    intro m hm hfield
    obtain ⟨hm, hdecision⟩ := List.mem_filter.1 hm
    obtain rfl := ps.eq_of_mem_linksOf hl hm (of_decide_eq_true hfield)
    exact hd (of_decide_eq_true hdecision)

/-- A link that is stored in a foreign key has one, which leads to the table of its target. -/
theorem keysOn_eq_singleton (hl : l ∈ ps.links) (hd : l.decision = .foreignKey) (ht : t ∈ p.tables)
    (howner : t.entity = l.owner) :
    ∃ key, t.keysOn l.field = [key] ∧ key.references = Naming.tableName l.target := by
  have hkeys := ps.map_unmarked_keysOn hl ht howner
  rw [if_pos hd, List.map_eq_singleton_iff] at hkeys
  obtain ⟨key, hkey, hunmarked⟩ := hkeys
  have hreferences := congrArg ForeignKey.references hunmarked
  exact ⟨key, hkey, hreferences⟩

/-- A link that is stored in another way has none. -/
theorem keysOn_eq_nil (hl : l ∈ ps.links) (hd : l.decision ≠ .foreignKey) (ht : t ∈ p.tables)
    (howner : t.entity = l.owner) : t.keysOn l.field = [] := by
  have hkeys := ps.map_unmarked_keysOn hl ht howner
  rwa [if_neg hd, List.map_eq_nil_iff] at hkeys

/-- If a link is derived, the table of its target has a foreign key back. -/
theorem exists_inverseKey (hl : l ∈ ps.links) (hd : l.decision = .derived) (hu : u ∈ p.tables)
    (htarget : u.entity = l.target) :
    ∃ key ∈ u.foreignKeys, u.HasColumn key.column ∧
      key.references = Naming.tableName l.owner := by
  have happlies := applies_of_mem ps.links_eq hl
  rw [hd] at happlies
  have hinverse : l.hasInverseKey (ps.links.map (·.toLink)) = true := happlies.2.2
  rw [Link.hasInverseKey, Bool.and_eq_true, List.any_eq_true] at hinverse
  obtain ⟨-, other, hother, hback⟩ := hinverse
  obtain ⟨m, hm, rfl⟩ := List.mem_map.1 hother
  simp only [Bool.and_eq_true, Bool.not_eq_true', Link.isReverse_iff] at hback
  obtain ⟨⟨⟨howner, hmtarget⟩, harray⟩, -⟩ := hback
  -- The link back is no array, so its own decision is a foreign key.
  have hmd : m.decision = .foreignKey := decision_eq_of_applies ps.links_eq hm harray
  have hentity : u.entity = m.owner := htarget.trans howner.symm
  obtain ⟨key, hkeys, hreferences⟩ := ps.keysOn_eq_singleton hm hmd hu hentity
  obtain ⟨hkey, hcolumn⟩ := Table.mem_keysOn.1 (hkeys ▸ List.mem_singleton_self key)
  refine ⟨key, hkey, ?_, hmtarget ▸ hreferences⟩
  rw [hcolumn, ps.hasColumn_iff hm hu hentity, hmd]
  rfl

/-! ## Join tables -/

/-- The join table of a link connects the tables of its two entities. -/
theorem connects_joinTable (hl : l ∈ joinedLinks ps.links) :
    (joinTable ps.idTypes ps.links l).Connects (Naming.tableName l.owner)
      (Naming.tableName l.target) := by
  rcases ps.joinTable_cases hl with ⟨hd, hjoin⟩ | ⟨-, m, -, rfl | hhalf, -, hjoin⟩
  · rw [hjoin, ps.target_eq_owner (mem_joinedLinks.1 hl).1 hd]
    exact .inl ⟨rfl, rfl⟩
  · rw [hjoin]
    exact .inl ⟨rfl, rfl⟩
  · rw [hjoin, ← hhalf.owner_eq, ← hhalf.target_eq]
    exact .inr ⟨rfl, rfl⟩

/-- The tables that a join table of the plan leads to are in the plan. -/
theorem exists_tables_of_joinTable {j : JoinTable} (hj : j ∈ p.joinTables) :
    j.owner.references ∈ p.tables.map (·.name) ∧ j.target.references ∈ p.tables.map (·.name) := by
  obtain ⟨l, hl, rfl⟩ := ps.mem_joinTables_iff.1 hj
  obtain ⟨hdeclares, -, htarget⟩ := of_mem_storedLinks ps.links_eq (mem_joinedLinks.1 hl).1
  have howner := ps.tableName_mem hdeclares.contains_owner
  have htarget := ps.tableName_mem htarget
  rcases ps.connects_joinTable hl with ⟨hfrom, hto⟩ | ⟨hfrom, hto⟩
  · rw [hfrom, hto]
    exact ⟨howner, htarget⟩
  · rw [hfrom, hto]
    exact ⟨htarget, howner⟩

/-- A join table stands for a link exactly if the link gives it its name. -/
theorem standsFor_eq_true_iff {j : JoinTable} (hl : l ∈ ps.links) :
    standsFor ps.links l.owner l.field j = true ↔ l.GivesName ps.links j.name := by
  simp only [standsFor, StoredLink.GivesName, Bool.or_eq_true, decide_eq_true_eq,
    List.any_eq_true, Bool.and_eq_true]
  refine or_congr_right ⟨?_, ?_⟩
  · rintro ⟨m, hm, ⟨howner, hfield⟩, other, hother, hhalf, hname⟩
    obtain rfl := eq_of_field_eq ps.links_eq hm hl howner hfield
    exact ⟨other, hother, hhalf, hname⟩
  · rintro ⟨other, hother, hhalf, hname⟩
    exact ⟨l, hl, ⟨rfl, rfl⟩, other, hother, hhalf, hname⟩

/-- The join table of a link stands for its field. -/
theorem standsFor_joinTable (hl : l ∈ ps.links) :
    standsFor ps.links l.owner l.field (joinTable ps.idTypes ps.links l) = true :=
  (ps.standsFor_eq_true_iff hl).2 (ps.givesName_joinTable hl)

/-- A join table stands for the field of a link only if the link is stored there. -/
theorem eq_joinTable_of_standsFor (hl : l ∈ ps.links) {j : JoinTable} (hj : j ∈ p.joinTables)
    (hstands : standsFor ps.links l.owner l.field j = true) :
    l ∈ joinedLinks ps.links ∧ j = joinTable ps.idTypes ps.links l := by
  obtain ⟨m, hm, rfl⟩ := ps.mem_joinTables_iff.1 hj
  have hmem := (mem_joinedLinks.1 hm).1
  rcases ps.eq_or_half_of_givesName hl hmem ((ps.standsFor_eq_true_iff hl).1 hstands)
    (ps.givesName_joinTable hmem) with rfl | hhalf
  · exact ⟨hm, rfl⟩
  · refine ⟨mem_joinedLinks.2 ⟨hl, ?_⟩, (ps.joinTable_half hl hmem hhalf).symm⟩
    rw [hhalf.1]
    rfl

/-- Of the join tables of a plan, exactly one stands for a link that is stored in one. -/
theorem filter_standsFor_eq_singleton (hl : l ∈ joinedLinks ps.links) :
    p.joinTables.filter (standsFor ps.links l.owner l.field) =
      [joinTable ps.idTypes ps.links l] := by
  have hmem := (mem_joinedLinks.1 hl).1
  refine filter_eq_singleton_of_nodup ps.nodup_names_joinTables.of_map
    (ps.mem_joinTables_iff.2 ⟨l, hl, rfl⟩) fun j hj => ⟨fun hstands => ?_, ?_⟩
  · exact (ps.eq_joinTable_of_standsFor hmem hj hstands).2
  · rintro rfl
    exact ps.standsFor_joinTable hmem

/-- None stands for a link that is stored elsewhere. -/
theorem filter_standsFor_eq_nil (hl : l ∈ ps.links) (hd : l.decision.usesJoinTable = false) :
    p.joinTables.filter (standsFor ps.links l.owner l.field) = [] := by
  refine List.filter_eq_nil_iff.2 fun j hj hstands => ?_
  have huses := (mem_joinedLinks.1 (ps.eq_joinTable_of_standsFor hl hj hstands).1).2
  rw [hd] at huses
  exact absurd huses Bool.false_ne_true

/-! ## One place for every relationship -/

/-- A link has the place that its decision leads to. -/
theorem storedIn (hl : l ∈ ps.links) :
    StoredIn s p ps.links l.owner l.field l.relationship (placeOf l.decision) := by
  obtain ⟨hdeclares, hshape, htarget⟩ := of_mem_storedLinks ps.links_eq hl
  have happlies := applies_of_mem ps.links_eq hl
  obtain ⟨t, ht, howner⟩ := ps.exists_table hdeclares.contains_owner
  obtain ⟨u, hu, hentity⟩ := ps.exists_table htarget
  have hcolumn := ps.hasColumn_iff hl ht howner
  have htname : t.name = Naming.tableName l.owner := howner ▸ ps.name_of_mem ht
  have huname : u.name = Naming.tableName l.target := hentity ▸ ps.name_of_mem hu
  refine ⟨t, ht, u, hu, howner, hentity, ?_⟩
  rw [htname, huname]
  -- A link with a join table has neither a column nor a key; the other three cases differ in these.
  cases hd : l.decision with
  | foreignKey =>
    rw [hd] at hcolumn happlies
    have hscalar : l.isArray = false := happlies
    exact ⟨hscalar ▸ hshape, hcolumn.2 rfl, ps.keysOn_eq_singleton hl hd ht howner⟩
  | json =>
    rw [hd] at hcolumn happlies
    have harray : l.isArray = true := happlies.1
    have hkeys : t.keysOn l.field = [] := ps.keysOn_eq_nil hl (by simp [hd]) ht howner
    exact ⟨harray ▸ hshape, happlies.2, hcolumn.2 rfl, hkeys⟩
  | derived =>
    have hnone := ps.filter_standsFor_eq_nil hl (by rw [hd]; rfl)
    rw [hd] at hcolumn
    exact ⟨by simp [hcolumn, StorageDecision.keepsColumn], hnone,
      ps.exists_inverseKey hl hd hu hentity⟩
  | joinTable | selfJoinTable | sharedJoinTable =>
    have hjoined : l ∈ joinedLinks ps.links := mem_joinedLinks.2 ⟨hl, by rw [hd]; rfl⟩
    rw [hd] at hcolumn
    exact ⟨by simp [hcolumn, StorageDecision.keepsColumn], _,
      ps.filter_standsFor_eq_singleton hjoined, ps.connects_joinTable hjoined⟩

/-- A relationship has no two places. -/
theorem place_unique {owner field : String} {r : Relationship} {a b : Place}
    (ha : StoredIn s p ps.links owner field r a) (hb : StoredIn s p ps.links owner field r b) :
    a = b := by
  obtain ⟨t, ht, u, -, howner, -, ha⟩ := ha
  obtain ⟨t', ht', u', -, howner', -, hb⟩ := hb
  obtain rfl := ps.eq_of_entity_eq ht ht' (howner.trans howner'.symm)
  -- Columns, shapes and join tables tell the four places from each other.
  cases a with
  | foreignKey =>
    obtain ⟨hshape, hcolumn, -⟩ := ha
    cases b with
    | foreignKey => rfl
    | document => exact absurd (hshape.unique hb.1) Bool.false_ne_true
    | inverseKey | joinTable => exact absurd hcolumn hb.1
  | document =>
    obtain ⟨hshape, -, hcolumn, -⟩ := ha
    cases b with
    | foreignKey => exact absurd (hb.1.unique hshape) Bool.false_ne_true
    | document => rfl
    | inverseKey | joinTable => exact absurd hcolumn hb.1
  | inverseKey =>
    obtain ⟨hcolumn, hjoins, -⟩ := ha
    cases b with
    | foreignKey => exact absurd hb.2.1 hcolumn
    | document => exact absurd hb.2.2.1 hcolumn
    | inverseKey => rfl
    | joinTable =>
      obtain ⟨-, j, hj, -⟩ := hb
      exact absurd (hjoins.symm.trans hj) (List.cons_ne_nil j []).symm
  | joinTable =>
    obtain ⟨hcolumn, j, hj, -⟩ := ha
    cases b with
    | foreignKey => exact absurd hb.2.1 hcolumn
    | document => exact absurd hb.2.2.1 hcolumn
    | inverseKey => exact absurd (hj.symm.trans hb.2.1) (List.cons_ne_nil j [])
    | joinTable => rfl

end Passes

/-- **Every relationship has exactly one place in a plan**, and nothing in the plan is there without
a relationship: a foreign key is the place of one, and so is a join table. -/
theorem existsUnique_place {s : Schema} {p : Plan} (h : s.plan = .ok p) :
    ∃ links, s.storedLinks = .ok links ∧
      (∀ owner field r, s.Declares owner field r →
        ∃! place, StoredIn s p links owner field r place) ∧
      (∀ t ∈ p.tables, ∀ key ∈ t.foreignKeys, ∃ r, s.Declares t.entity key.column r ∧
        StoredIn s p links t.entity key.column r .foreignKey) ∧
      ∀ j ∈ p.joinTables, ∃ owner field r, s.Declares owner field r ∧
        StoredIn s p links owner field r .joinTable ∧ standsFor links owner field j = true := by
  obtain ⟨ps⟩ := plan_eq_ok_iff.1 h
  refine ⟨ps.links, ps.links_eq, fun owner field r hr => ?_, fun t ht key hkey => ?_,
    fun j hj => ?_⟩
  · obtain ⟨l, hl, rfl, rfl, rfl⟩ := exists_storedLink ps.links_eq hr
    exact ⟨_, ps.storedIn hl, fun place hplace => ps.place_unique hplace (ps.storedIn hl)⟩
  · obtain ⟨l, hl, howner, hd, hcolumn, -⟩ := ps.exists_link_of_key ht hkey
    have hstored := ps.storedIn hl
    rw [hd, howner, hcolumn] at hstored
    have hr := (of_mem_storedLinks ps.links_eq hl).1
    rw [howner, hcolumn] at hr
    exact ⟨_, hr, hstored⟩
  · obtain ⟨l, hl, rfl⟩ := ps.mem_joinTables_iff.1 hj
    obtain ⟨hmem, huses⟩ := mem_joinedLinks.1 hl
    have hplace : placeOf l.decision = .joinTable := by
      cases hd : l.decision <;> simp [hd, StorageDecision.usesJoinTable, placeOf] at huses ⊢
    exact ⟨_, _, _, (of_mem_storedLinks ps.links_eq hmem).1, hplace ▸ ps.storedIn hmem,
      ps.standsFor_joinTable hmem⟩

/-- Owners with their pets and clubs, which have a relationship for every place. -/
def kennel : Schema where
  version := ""
  metadata := ⟨""⟩
  idSemantics := none
  enums := ∅
  definitions := ∅
  entities := .ofList
    [("Club", {
      description := ""
      required := []
      properties := .ofList
        [("id", .primitive "string"), ("member_ids", .arrayOf (.primitive "string"))]
      relationships := .ofList [("member_ids", ⟨"Owner", .zeroOrMany, .automatic⟩)]
      naturalKeys := []
      states := none
      invariants := [] }),
    ("Owner", {
      description := ""
      required := ["club_ids"]
      properties := .ofList
        [("id", .primitive "string"), ("name", .primitive "string"),
          ("club_ids", .arrayOf (.primitive "string")),
          ("friend_ids", .arrayOf (.primitive "string")),
          ("mentor_id", .primitive "string"),
          ("pet_ids", .arrayOf (.primitive "string")),
          ("walked_ids", .arrayOf (.primitive "string"))]
      relationships := .ofList
        [("club_ids", ⟨"Club", .oneOrMany, .automatic⟩),
          ("friend_ids", ⟨"Owner", .zeroOrMany, .automatic⟩),
          ("mentor_id", ⟨"Owner", .zeroOrOne, .automatic⟩),
          ("pet_ids", ⟨"Pet", .zeroOrMany, .automatic⟩),
          ("walked_ids", ⟨"Pet", .zeroOrMany, .json⟩)]
      naturalKeys := [⟨["name"], "", ""⟩]
      states := none
      invariants := [] }),
    ("Pet", {
      description := ""
      required := ["owner_id"]
      properties := .ofList [("id", .primitive "string"), ("owner_id", .primitive "string")]
      relationships := .ofList [("owner_id", ⟨"Owner", .exactlyOne, .automatic⟩)]
      naturalKeys := []
      states := none
      invariants := [] })]

/-- The plan of `kennel`. -/
def kennelPlan : Plan where
  tables :=
    [⟨"clubs", "Club", [⟨"id", .text, true, true, none⟩], []⟩,
      ⟨"owners", "Owner",
        [⟨"id", .text, true, true, none⟩, ⟨"mentor_id", .text, false, false, none⟩,
          ⟨"name", .text, false, false, none⟩, ⟨"walked_ids", .json, false, false, none⟩],
        [⟨"mentor_id", "owners", false⟩]⟩,
      ⟨"pets", "Pet", [⟨"id", .text, true, true, none⟩, ⟨"owner_id", .text, true, false, none⟩],
        [⟨"owner_id", "owners", false⟩]⟩]
  joinTables :=
    [⟨"clubs__member_ids", ⟨"club_id", .text, "clubs"⟩, ⟨"owner_id", .text, "owners"⟩⟩,
      ⟨"owners__friend_ids", ⟨"owner_id", .text, "owners"⟩, ⟨"friend_ids_id", .text, "owners"⟩⟩]
  indexes := [⟨"idx_owners_nk_1", "owners", ["name"]⟩]
  requiredJoins := [⟨"clubs__member_ids", "owner_id", "owners"⟩]

/-- Planning `kennel` makes its plan. -/
theorem plan_kennel : kennel.plan = .ok kennelPlan := by decide +kernel

/-- The pets of an owner have their place in the foreign key to the owner. -/
theorem existsUnique_place_kennel : kennel.plan = .ok kennelPlan ∧
    ∃ links, kennel.storedLinks = .ok links ∧
      ∃! place, StoredIn kennel kennelPlan links "Owner" "pet_ids"
        ⟨"Pet", .zeroOrMany, .automatic⟩ place := by
  refine ⟨plan_kennel, ?_⟩
  obtain ⟨links, hlinks, hplace, -⟩ := existsUnique_place plan_kennel
  exact ⟨links, hlinks, hplace "Owner" "pet_ids" _ ⟨_, by rfl, by rfl⟩⟩

end Schema

end EntityModel
