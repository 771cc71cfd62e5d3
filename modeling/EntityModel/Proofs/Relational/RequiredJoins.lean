import EntityModel.Proofs.Relational.Storage

/-! # Required joins

A field that its entity requires cannot be checked by its column when it is stored in a join table,
so the plan has a required join for it. There is one for every such field and no other one
(`requiredJoins_perm`), and it leads to the entity of the field (`guards_requiredJoin`), also where
the join table has the name that the other half of a pair gave it. -/

namespace EntityModel

open Relational

namespace Relational

/-- The columns of a join table. -/
def JoinTable.columns (j : JoinTable) : List JoinColumn := [j.owner, j.target]

/-- A join table has two columns. -/
theorem JoinTable.mem_columns {j : JoinTable} {c : JoinColumn} :
    c ∈ j.columns ↔ c = j.owner ∨ c = j.target := by
  simp [columns]

/-- One more required join is put in, wherever its place is. -/
theorem RequiredJoin.insert_perm {q : RequiredJoin} {qs : List RequiredJoin} (h : q ∉ qs) :
    (q.insert qs).Perm (q :: qs) := by
  fun_induction RequiredJoin.insert q qs with
  | case1 => exact .refl _
  | case2 first rest => exact .refl _
  -- The join would be there already.
  | case3 first rest => exact absurd List.mem_cons_self h
  | case4 first rest _ _ ih =>
    have hrest : q ∉ rest := fun hmem => h (List.mem_cons_of_mem _ hmem)
    exact ((ih hrest).cons first).trans (.swap q first rest)

/-- Different required joins that are put in one after another are all kept. -/
theorem RequiredJoin.foldl_insert_perm {qs acc : List RequiredJoin} (h : (qs ++ acc).Nodup) :
    (qs.foldl (fun acc q => q.insert acc) acc).Perm (qs ++ acc) := by
  induction qs generalizing acc with
  | nil => exact .refl _
  | cons q qs ih =>
    obtain ⟨hq, hqs⟩ := List.nodup_cons.1 h
    have hacc : (q.insert acc).Perm (q :: acc) :=
      insert_perm fun hmem => hq (List.mem_append_right qs hmem)
    -- The accumulator grows by `q`, which may as well stand in front of all others.
    have hperm : (qs ++ q.insert acc).Perm (q :: (qs ++ acc)) :=
      (hacc.append_left qs).trans List.perm_middle
    exact (ih (hperm.nodup_iff.2 h)).trans hperm

end Relational

namespace Schema

/-- The entity lists the field as required, whatever the case of its letters. -/
def Requires (s : Schema) (owner field : String) : Prop :=
  ∃ entity, s.entities.find? owner = some entity ∧
    ∃ name ∈ entity.required, name.toList.map Char.toLower = field.toList.map Char.toLower

/-- An entity requires a field exactly if the schema says so, up to case. -/
theorem isRequired_iff_requires {s : Schema} {owner field : String} {entity : Entity}
    (h : s.entities.find? owner = some entity) :
    entity.isRequired field = true ↔ s.Requires owner field := by
  simp [Requires, h, Entity.isRequired, Text.equalIgnoringCase]

/-- A link is required exactly if its field is. -/
theorem isRequiredLink_iff {s : Schema} {l : StoredLink} :
    s.isRequiredLink l = true ↔ s.Requires l.owner l.field := by
  simp [isRequiredLink, Requires, Option.any_eq_true, Entity.isRequired, Text.equalIgnoringCase]

/-- The required join leads from the join table that stands for the field to the entity of the
field: its column is named after the entity, and leads to the entity's table. -/
structure Guards (p : Plan) (links : List StoredLink) (owner field : String) (q : RequiredJoin) :
    Prop where
  exists_table : ∃ t ∈ p.tables, t.entity = owner ∧ t.name = q.parentTable
  column_eq : q.column = Naming.idColumn owner
  exists_joinTable : ∃ j ∈ p.joinTables, standsFor links owner field j = true ∧
    j.name = q.joinTable ∧ (∃ c ∈ j.columns, c.name = q.column) ∧
      ∀ c ∈ j.columns, c.name = q.column → c.references = q.parentTable

namespace Passes

variable {s : Schema} {p : Plan} (ps : Passes s p) {l m : StoredLink}

include ps

/-! ## The column of a required join -/

/-- The column of a required join is named after the entity of its link. -/
theorem column_requiredJoin (hl : l ∈ joinedLinks ps.links) :
    (requiredJoin ps.idTypes ps.links l).column = Naming.idColumn l.owner := by
  have huses := (mem_joinedLinks.1 hl).2
  rw [requiredJoin]
  cases hd : l.decision with
  | sharedJoinTable => simp
  | joinTable | selfJoinTable =>
    rw [if_neg (by decide), joinTable, hd]
    rfl
  | foreignKey | json | derived => simp [hd, StorageDecision.usesJoinTable] at huses

/-- A join table has a column that is named after the entity of its link. -/
theorem exists_ownerColumn (hl : l ∈ joinedLinks ps.links) :
    ∃ c ∈ (joinTable ps.idTypes ps.links l).columns, c.name = Naming.idColumn l.owner := by
  rcases ps.joinTable_cases hl with ⟨-, hjoin⟩ | ⟨-, m, -, rfl | hhalf, -, hjoin⟩
  · rw [hjoin]
    exact ⟨_, List.mem_cons_self, rfl⟩
  · rw [hjoin]
    exact ⟨_, List.mem_cons_self, rfl⟩
  · -- The other half gave the name, so that the owner's column comes second.
    rw [hjoin, ← hhalf.target_eq]
    exact ⟨_, List.mem_cons_of_mem _ List.mem_cons_self, rfl⟩

/-- A column of a join table that does not lead to the entity of the link is named after the entity
that it leads to. -/
theorem of_mem_columns (hl : l ∈ joinedLinks ps.links) {c : JoinColumn}
    (hc : c ∈ (joinTable ps.idTypes ps.links l).columns) :
    c.references = Naming.tableName l.owner ∨
      c.references = Naming.tableName l.target ∧ c.name = Naming.idColumn l.target := by
  rcases ps.joinTable_cases hl with ⟨-, hjoin⟩ | ⟨-, m, -, rfl | hhalf, -, hjoin⟩
  · rw [hjoin] at hc
    rcases JoinTable.mem_columns.1 hc with rfl | rfl
    · exact .inl rfl
    · exact .inl rfl
  · rw [hjoin] at hc
    rcases JoinTable.mem_columns.1 hc with rfl | rfl
    · exact .inl rfl
    · exact .inr ⟨rfl, rfl⟩
  · rw [hjoin, ownJoin, hhalf.owner_eq, hhalf.target_eq] at hc
    rcases JoinTable.mem_columns.1 hc with rfl | rfl
    · exact .inr ⟨rfl, rfl⟩
    · exact .inl rfl

/-- A column of a join table that is named after the entity of the link leads to it. -/
theorem references_of_mem_columns (hl : l ∈ joinedLinks ps.links) {c : JoinColumn}
    (hc : c ∈ (joinTable ps.idTypes ps.links l).columns)
    (hname : c.name = Naming.idColumn l.owner) : c.references = Naming.tableName l.owner := by
  rcases ps.of_mem_columns hl hc with hreferences | ⟨hreferences, htarget⟩
  · exact hreferences
  · rw [hreferences]
    exact Naming.tableName_eq_of_idColumn_eq (htarget.symm.trans hname)

/-! ## The required joins of a plan -/

/-- The join table and the table of the entity tell the link. -/
theorem eq_of_joinTable_of_tableName (hl : l ∈ ps.links) (hm : m ∈ ps.links)
    (hjoin : (joinTable ps.idTypes ps.links l).name = (joinTable ps.idTypes ps.links m).name)
    (htable : Naming.tableName l.owner = Naming.tableName m.owner) : l = m := by
  have howner : l.owner = m.owner := tableName_inj ps.idTypes_eq
    (of_mem_storedLinks ps.links_eq hl).1.contains_owner
    (of_mem_storedLinks ps.links_eq hm).1.contains_owner htable
  rcases ps.eq_or_half_of_givesName hl hm (ps.givesName_joinTable hl)
    (hjoin ▸ ps.givesName_joinTable hm) with heq | hhalf
  · exact heq
  · -- The halves of a pair share their table, but not their entity.
    exact absurd (hhalf.owner_eq.symm.trans howner.symm) (owner_ne_of_half ps.links_eq hl hhalf)

/-- No two required links have the same required join. -/
theorem nodup_map_requiredJoin : (((joinedLinks ps.links).filter s.isRequiredLink).map
    (requiredJoin ps.idTypes ps.links)).Nodup := by
  have hlinks : ps.links.Nodup := (nodup_stored_keys ps.links_eq).of_map
  refine ((hlinks.filter _).filter _).map_on fun l hl m hm heq => ?_
  have hl := (mem_joinedLinks.1 (List.mem_filter.1 hl).1).1
  have hm := (mem_joinedLinks.1 (List.mem_filter.1 hm).1).1
  have hjoin := congrArg RequiredJoin.joinTable heq
  have htable := congrArg RequiredJoin.parentTable heq
  exact ps.eq_of_joinTable_of_tableName hl hm hjoin htable

/-- The plan has the required joins of the links that are required, each of them once. -/
theorem requiredJoins_perm : p.requiredJoins.Perm
    (((joinedLinks ps.links).filter s.isRequiredLink).map (requiredJoin ps.idTypes ps.links)) := by
  have hnodup := ps.nodup_map_requiredJoin
  rw [← List.append_nil (List.map _ _)] at hnodup
  have hperm := RequiredJoin.foldl_insert_perm hnodup
  rw [List.foldl_map, List.append_nil] at hperm
  rw [ps.requiredJoins_eq]
  exact hperm

/-- No required join is there twice. -/
theorem nodup_requiredJoins : p.requiredJoins.Nodup :=
  ps.requiredJoins_perm.nodup_iff.2 ps.nodup_map_requiredJoin

/-- The required joins of a plan are those of the links that are stored in a join table and required
by their entity. -/
theorem mem_requiredJoins_iff {q : RequiredJoin} : q ∈ p.requiredJoins ↔
    ∃ l ∈ joinedLinks ps.links, s.Requires l.owner l.field ∧
      requiredJoin ps.idTypes ps.links l = q := by
  rw [ps.requiredJoins_perm.mem_iff, List.mem_map]
  simp only [List.mem_filter, isRequiredLink_iff, and_assoc]

/-- The table and the column of a required join are named after an entity. -/
theorem exists_owner_of_requiredJoin {q : RequiredJoin} (hq : q ∈ p.requiredJoins) :
    ∃ owner, s.entities.contains owner = true ∧ q.parentTable = Naming.tableName owner ∧
      q.column = Naming.idColumn owner := by
  obtain ⟨l, hl, -, rfl⟩ := ps.mem_requiredJoins_iff.1 hq
  have hdeclares := (of_mem_storedLinks ps.links_eq (mem_joinedLinks.1 hl).1).1
  exact ⟨l.owner, hdeclares.contains_owner, rfl, ps.column_requiredJoin hl⟩

/-- The join table of a required join is in the plan. -/
theorem exists_joinTable_of_requiredJoin {q : RequiredJoin} (hq : q ∈ p.requiredJoins) :
    ∃ j ∈ p.joinTables, j.name = q.joinTable := by
  obtain ⟨l, hl, -, rfl⟩ := ps.mem_requiredJoins_iff.1 hq
  exact ⟨_, ps.mem_joinTables_iff.2 ⟨l, hl, rfl⟩, rfl⟩

/-- The required join of a link leads to the entity of the link. -/
theorem guards_requiredJoin (hl : l ∈ joinedLinks ps.links) :
    Guards p ps.links l.owner l.field (requiredJoin ps.idTypes ps.links l) := by
  have hmem := (mem_joinedLinks.1 hl).1
  obtain ⟨t, ht, howner⟩ :=
    ps.exists_table (of_mem_storedLinks ps.links_eq hmem).1.contains_owner
  have hname : t.name = Naming.tableName l.owner := howner ▸ ps.name_of_mem ht
  have hcolumn := ps.column_requiredJoin hl
  refine ⟨⟨t, ht, howner, hname⟩, hcolumn, _, ps.mem_joinTables_iff.2 ⟨l, hl, rfl⟩,
    ps.standsFor_joinTable hmem, rfl, ?_, ?_⟩
  · rw [hcolumn]
    exact ps.exists_ownerColumn hl
  · rw [hcolumn]
    exact fun c hc hname => ps.references_of_mem_columns hl hc hname

/-- A required join of the plan that leads to the entity of a link is the one of that link. -/
theorem eq_of_guards (hl : l ∈ ps.links) (hm : m ∈ joinedLinks ps.links)
    (h : Guards p ps.links l.owner l.field (requiredJoin ps.idTypes ps.links m)) : l = m := by
  obtain ⟨t, ht, howner, hname⟩ := h.exists_table
  obtain ⟨j, hj, hstands, hjoin, -⟩ := h.exists_joinTable
  obtain ⟨-, rfl⟩ := ps.eq_joinTable_of_standsFor hl hj hstands
  refine ps.eq_of_joinTable_of_tableName hl (mem_joinedLinks.1 hm).1 hjoin ?_
  rw [← howner, ← ps.name_of_mem ht, hname]
  rfl

/-- A link is stored in a join table exactly if that is its place in the plan. -/
theorem mem_joinedLinks_iff_storedIn (hl : l ∈ ps.links) : l ∈ joinedLinks ps.links ↔
    StoredIn s p ps.links l.owner l.field l.relationship .joinTable := by
  have hplace : l.decision.usesJoinTable = true ↔ placeOf l.decision = .joinTable := by
    cases l.decision <;> simp [StorageDecision.usesJoinTable, placeOf]
  rw [mem_joinedLinks, and_iff_right hl, hplace]
  constructor
  · intro heq
    exact heq ▸ ps.storedIn hl
  · intro hstored
    exact ps.place_unique (ps.storedIn hl) hstored

end Passes

/-! ## One required join for every required field -/

/-- **Every required field in a join table has exactly one required join**, which leads from the
field's join table to the table of its entity, and there is no required join without such a
field. -/
theorem existsUnique_requiredJoin {s : Schema} {p : Plan} (h : s.plan = .ok p) :
    ∃ links, s.storedLinks = .ok links ∧ p.requiredJoins.Nodup ∧
      (∀ owner field r, s.Declares owner field r → StoredIn s p links owner field r .joinTable →
        s.Requires owner field → ∃! q, q ∈ p.requiredJoins ∧ Guards p links owner field q) ∧
      ∀ q ∈ p.requiredJoins, ∃! key : String × String, Guards p links key.1 key.2 q ∧
        s.Requires key.1 key.2 ∧ ∃ r, s.Declares key.1 key.2 r ∧
          StoredIn s p links key.1 key.2 r .joinTable := by
  obtain ⟨ps⟩ := plan_eq_ok_iff.1 h
  refine ⟨ps.links, ps.links_eq, ps.nodup_requiredJoins,
    fun owner field r hr hstored hrequired => ?_, fun q hq => ?_⟩
  · obtain ⟨l, hl, rfl, rfl, rfl⟩ := exists_storedLink ps.links_eq hr
    have hjoined := (ps.mem_joinedLinks_iff_storedIn hl).2 hstored
    refine ⟨_, ⟨ps.mem_requiredJoins_iff.2 ⟨l, hjoined, hrequired, rfl⟩,
      ps.guards_requiredJoin hjoined⟩, ?_⟩
    rintro q ⟨hq, hguards⟩
    obtain ⟨m, hm, -, rfl⟩ := ps.mem_requiredJoins_iff.1 hq
    -- What guards a field is made of the field's own link.
    rw [ps.eq_of_guards hl hm hguards]
  · obtain ⟨m, hm, hrequired, rfl⟩ := ps.mem_requiredJoins_iff.1 hq
    have hmem := (mem_joinedLinks.1 hm).1
    refine ⟨(m.owner, m.field), ⟨ps.guards_requiredJoin hm, hrequired, _,
      (of_mem_storedLinks ps.links_eq hmem).1, (ps.mem_joinedLinks_iff_storedIn hmem).1 hm⟩, ?_⟩
    rintro ⟨owner, field⟩ ⟨hguards, -, r, hr, -⟩
    obtain ⟨l, hl, rfl, rfl, rfl⟩ := exists_storedLink ps.links_eq hr
    rw [ps.eq_of_guards hl hm hguards]

/-- The links of `kennel`. -/
def kennelLinks : List StoredLink :=
  [⟨⟨"Club", "member_ids", ⟨"Owner", .zeroOrMany, .automatic⟩, true⟩, .sharedJoinTable⟩,
    ⟨⟨"Owner", "club_ids", ⟨"Club", .oneOrMany, .automatic⟩, true⟩, .sharedJoinTable⟩,
    ⟨⟨"Owner", "friend_ids", ⟨"Owner", .zeroOrMany, .automatic⟩, true⟩, .selfJoinTable⟩,
    ⟨⟨"Owner", "mentor_id", ⟨"Owner", .zeroOrOne, .automatic⟩, false⟩, .foreignKey⟩,
    ⟨⟨"Owner", "pet_ids", ⟨"Pet", .zeroOrMany, .automatic⟩, true⟩, .derived⟩,
    ⟨⟨"Owner", "walked_ids", ⟨"Pet", .zeroOrMany, .json⟩, true⟩, .json⟩,
    ⟨⟨"Pet", "owner_id", ⟨"Owner", .exactlyOne, .automatic⟩, false⟩, .foreignKey⟩]

/-- Storing the links of `kennel` decides about each of them. -/
theorem storedLinks_kennel : kennel.storedLinks = .ok kennelLinks := by decide +kernel

/-- The clubs of an owner are in the join table that has the name of the clubs' members. -/
theorem storedIn_kennel : StoredIn kennel kennelPlan kennelLinks "Owner" "club_ids"
    ⟨"Club", .oneOrMany, .automatic⟩ .joinTable := by
  refine ⟨_, List.mem_cons_of_mem _ List.mem_cons_self, _, List.mem_cons_self, rfl, rfl,
    by rw [Table.HasColumn]; decide,
    ⟨"clubs__member_ids", ⟨"club_id", .text, "clubs"⟩, ⟨"owner_id", .text, "owners"⟩⟩,
    by decide, .inr ⟨rfl, rfl⟩⟩

/-- An owner needs clubs, so there is a required join for them, which leads to the owners although
the join table has the name that the clubs gave it. -/
theorem existsUnique_requiredJoin_kennel : kennel.plan = .ok kennelPlan ∧
    kennel.storedLinks = .ok kennelLinks ∧
    ∃! q, q ∈ kennelPlan.requiredJoins ∧ Guards kennelPlan kennelLinks "Owner" "club_ids" q := by
  obtain ⟨links, hlinks, -, hunique, -⟩ := existsUnique_requiredJoin plan_kennel
  obtain rfl : kennelLinks = links := Except.ok.inj (storedLinks_kennel.symm.trans hlinks)
  have hrequired : kennel.Requires "Owner" "club_ids" :=
    (isRequiredLink_iff (l := kennelLinks[1])).1 (by decide +kernel)
  exact ⟨plan_kennel, storedLinks_kennel,
    hunique "Owner" "club_ids" _ ⟨_, by rfl, by rfl⟩ storedIn_kennel hrequired⟩

end Schema

end EntityModel
