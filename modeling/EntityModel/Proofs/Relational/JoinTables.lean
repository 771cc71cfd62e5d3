import EntityModel.Proofs.Relational.Passes

/-! # Join tables

A link that is stored in a join table has one there. The two halves of a pair have the same one
(`joinTable_half`), and besides these no two links give one name (`eq_or_half_of_givesName`), so the
join tables of a plan are those of its links (`mem_joinTables_iff`). Their two columns have
different names but for one shape of self-joins (`joinColumns_name_eq_iff`). -/

namespace EntityModel

open Relational

namespace Schema

/-- Only an entity that is there declares relationships. -/
theorem Declares.contains_owner {s : Schema} {owner field : String} {r : Relationship}
    (h : s.Declares owner field r) : s.entities.contains owner = true := by
  obtain ⟨entity, hentity, -⟩ := h
  rw [NameMap.contains, hentity]
  rfl

/-- The join table of a link that does not lead to its own entity, under the link's own name. -/
def ownJoin (idTypes : List (String × ColumnType)) (l : Link) : JoinTable :=
  joinBetween idTypes (joinName l.owner l.field) l.owner l.target

/-- The join table of a link that leads to its own entity. Its second column has the name of the
field. -/
def selfJoin (idTypes : List (String × ColumnType)) (l : Link) : JoinTable :=
  ⟨joinName l.owner l.field, joinColumn idTypes (Naming.idColumn l.owner) l.owner,
    joinColumn idTypes (l.field ++ "_id") l.owner⟩

/-- The joined links are those that are decided to use a join table. -/
theorem mem_joinedLinks {links : List StoredLink} {l : StoredLink} :
    l ∈ joinedLinks links ↔ l ∈ links ∧ l.decision.usesJoinTable = true := by
  simp [joinedLinks]

/-- The name that the other half of a pair gives, in whatever order the links are searched. -/
theorem reverseJoinName?_eq {s : Schema} {links order : List StoredLink}
    (h : s.storedLinks = .ok links) (hperm : order.Perm links) {l other : StoredLink}
    (hother : other ∈ links) (hhalf : l.IsHalfOf other) :
    reverseJoinName? order l = some (joinName other.owner other.field) := by
  have hfind : (order.find? fun m => m.decision = .sharedJoinTable && l.isReverse m.toLink) =
      some other := by
    refine find?_eq_some_of_unique (hperm.mem_iff.2 hother) ?_ fun m hm hreverse => ?_
    · rw [hhalf.2.1, hhalf.2.2]
      rfl
    · rw [Bool.and_eq_true, decide_eq_true_iff] at hreverse
      exact half_unique h (hperm.mem_iff.1 hm) hother ⟨hhalf.1, hreverse⟩ hhalf
  rw [reverseJoinName?, hfind, Option.map_some]

end Schema

/-- The name is the one of the link's join table as the link or, in a pair, its other half gives
it. -/
def StoredLink.GivesName (links : List StoredLink) (l : StoredLink) (name : String) : Prop :=
  name = Schema.joinName l.owner l.field ∨
    ∃ other ∈ links, l.IsHalfOf other ∧ name = Schema.joinName other.owner other.field

namespace Schema

namespace Passes

variable {s : Schema} {p : Plan} (ps : Passes s p)

include ps

/-- Two links of one name are one link. -/
theorem eq_of_joinName_eq {l m : StoredLink} (hl : l ∈ ps.links) (hm : m ∈ ps.links)
    (h : joinName l.owner l.field = joinName m.owner m.field) : l = m := by
  obtain ⟨htable, hfield⟩ := Naming.joined_inj h
  have hlowner := (of_mem_storedLinks ps.links_eq hl).1.contains_owner
  have hmowner := (of_mem_storedLinks ps.links_eq hm).1.contains_owner
  exact eq_of_field_eq ps.links_eq hl hm (tableName_inj ps.idTypes_eq hlowner hmowner htable) hfield

/-! ## The join table of a link -/

/-- The table of a pair is the one of its half with the smaller name. -/
theorem joinTable_of_half {l other : StoredLink} (hother : other ∈ ps.links)
    (hhalf : l.IsHalfOf other) : joinTable ps.idTypes ps.links l =
      if joinName other.owner other.field < joinName l.owner l.field then
        ownJoin ps.idTypes other.toLink
      else ownJoin ps.idTypes l.toLink := by
  rw [joinTable, hhalf.1]
  simp only [reverseJoinName?_eq ps.links_eq (.refl _) hother hhalf]
  rw [ownJoin, ownJoin, hhalf.target_eq, hhalf.owner_eq]

/-- One half of a pair gives it a smaller name than the other. -/
theorem joinName_lt_of_half {l other : StoredLink} (hl : l ∈ ps.links) (hother : other ∈ ps.links)
    (hhalf : l.IsHalfOf other)
    (hnlt : ¬joinName other.owner other.field < joinName l.owner l.field) :
    joinName l.owner l.field < joinName other.owner other.field := by
  refine String.not_le.1 fun hle => ?_
  have heq : joinName other.owner other.field = joinName l.owner l.field :=
    String.le_antisymm hle (String.not_lt.1 hnlt)
  have hsame : other = l := ps.eq_of_joinName_eq hother hl heq
  exact owner_ne_of_half ps.links_eq hl hhalf (hhalf.owner_eq.symm.trans (hsame ▸ rfl))

/-- Both halves of a pair have the same join table. -/
theorem joinTable_half {l other : StoredLink} (hl : l ∈ ps.links) (hother : other ∈ ps.links)
    (hhalf : l.IsHalfOf other) :
    joinTable ps.idTypes ps.links l = joinTable ps.idTypes ps.links other := by
  rw [ps.joinTable_of_half hother hhalf, ps.joinTable_of_half hl hhalf.symm]
  by_cases hlt : joinName other.owner other.field < joinName l.owner l.field
  · rw [if_pos hlt, if_neg (String.lt_asymm hlt)]
  · have hgt : joinName l.owner l.field < joinName other.owner other.field :=
      ps.joinName_lt_of_half hl hother hhalf hlt
    rw [if_neg hlt, if_pos hgt]

/-- The join table of a link has a name that the link gives. -/
theorem givesName_joinTable {l : StoredLink} (hl : l ∈ ps.links) :
    l.GivesName ps.links (joinTable ps.idTypes ps.links l).name := by
  by_cases hd : l.decision = .sharedJoinTable
  · obtain ⟨other, hother, hhalf⟩ := exists_half ps.links_eq hl hd
    rw [ps.joinTable_of_half hother hhalf]
    split
    · exact .inr ⟨other, hother, hhalf, rfl⟩
    · exact .inl rfl
  · left
    unfold joinTable
    split
    · rfl
    · contradiction
    · rfl

/-- The name of a join table is put together from the entity and the field of a link. -/
theorem exists_joinName {l : StoredLink} (hl : l ∈ ps.links) :
    ∃ m ∈ ps.links, (joinTable ps.idTypes ps.links l).name = joinName m.owner m.field := by
  rcases ps.givesName_joinTable hl with hname | ⟨other, hother, -, hname⟩
  · exact ⟨l, hl, hname⟩
  · exact ⟨other, hother, hname⟩

/-- Two links give one name only if they are the halves of a pair. -/
theorem eq_or_half_of_givesName {l m : StoredLink} (hl : l ∈ ps.links) (hm : m ∈ ps.links)
    {name : String} (hlname : l.GivesName ps.links name) (hmname : m.GivesName ps.links name) :
    l = m ∨ l.IsHalfOf m := by
  rcases hlname with hname | ⟨a, ha, hhalf, hname⟩
  · rcases hmname with hname' | ⟨b, hb, hhalf', hname'⟩
    · exact .inl (ps.eq_of_joinName_eq hl hm (hname.symm.trans hname'))
    · have heq : l = b := ps.eq_of_joinName_eq hl hb (hname.symm.trans hname')
      exact .inr (heq ▸ hhalf').symm
  · rcases hmname with hname' | ⟨b, hb, hhalf', hname'⟩
    · have heq : a = m := ps.eq_of_joinName_eq ha hm (hname.symm.trans hname')
      exact .inr (heq ▸ hhalf)
    · have heq : a = b := ps.eq_of_joinName_eq ha hb (hname.symm.trans hname')
      exact .inl (half_unique ps.links_eq hl hm hhalf.symm (heq ▸ hhalf'.symm))

/-- Links that give one name have the same join table. -/
theorem joinTable_eq_of_givesName {l m : StoredLink} (hl : l ∈ ps.links) (hm : m ∈ ps.links)
    {name : String} (hlname : l.GivesName ps.links name) (hmname : m.GivesName ps.links name) :
    joinTable ps.idTypes ps.links l = joinTable ps.idTypes ps.links m := by
  rcases ps.eq_or_half_of_givesName hl hm hlname hmname with rfl | hhalf
  · rfl
  · exact ps.joinTable_half hl hm hhalf

/-- Links whose join tables have one name have one join table. -/
theorem joinTable_eq_of_name_eq {l m : StoredLink} (hl : l ∈ ps.links) (hm : m ∈ ps.links)
    (h : (joinTable ps.idTypes ps.links l).name = (joinTable ps.idTypes ps.links m).name) :
    joinTable ps.idTypes ps.links l = joinTable ps.idTypes ps.links m :=
  ps.joinTable_eq_of_givesName hl hm (ps.givesName_joinTable hl) (h ▸ ps.givesName_joinTable hm)

/-! ## The join tables of a plan -/

/-- Links that share a name have one join table under it. -/
theorem functional_named : Entries.Functional ((joinedLinks ps.links).map fun l =>
    ((joinTable ps.idTypes ps.links l).name, joinTable ps.idTypes ps.links l)).reverse := by
  intro e he e' he' hname
  obtain ⟨l, hl, rfl⟩ := List.mem_map.1 (List.mem_reverse.1 he)
  obtain ⟨m, hm, rfl⟩ := List.mem_map.1 (List.mem_reverse.1 he')
  rw [ps.joinTable_eq_of_name_eq (mem_joinedLinks.1 hl).1 (mem_joinedLinks.1 hm).1 hname]

/-- The join tables of a plan are those of the links that are stored in one. -/
theorem mem_joinTables_iff {j : JoinTable} : j ∈ p.joinTables ↔
    ∃ l ∈ joinedLinks ps.links, joinTable ps.idTypes ps.links l = j := by
  rw [ps.joinTables_eq, joinTables, List.mem_map]
  constructor
  · rintro ⟨e, he, rfl⟩
    obtain ⟨l, hl, rfl⟩ := List.mem_map.1
      (List.mem_reverse.1 ((Entries.mem_ofList_iff ps.functional_named).1 he))
    exact ⟨l, hl, rfl⟩
  · rintro ⟨l, hl, rfl⟩
    exact ⟨_, (Entries.mem_ofList_iff ps.functional_named).2
      (List.mem_reverse.2 (List.mem_map.2 ⟨l, hl, rfl⟩)), rfl⟩

/-- The join tables of a plan stand in the order of their names, so no name occurs twice. -/
theorem nodup_names_joinTables : (p.joinTables.map (·.name)).Nodup := by
  have hkeys : ∀ entries : List (String × JoinTable), (∀ e ∈ entries, e.1 = e.2.name) →
      (entries.map (·.2)).map (·.name) = Entries.names entries := by
    intro entries hkey
    rw [List.map_map]
    exact List.map_congr_left fun e he => (hkey e he).symm
  rw [ps.joinTables_eq, joinTables, hkeys]
  · exact NameMap.nodup_names _
  · intro e he
    obtain ⟨l, -, rfl⟩ := List.mem_map.1 (List.mem_reverse.1 (Entries.mem_ofList he))
    rfl

/-! ## The columns of a join table -/

/-- A link that is stored in a join table like any other leads to another entity. -/
theorem target_ne_owner {l : StoredLink} (hl : l ∈ ps.links)
    (hd : l.decision = .joinTable ∨ l.decision = .sharedJoinTable) : l.target ≠ l.owner := by
  have happlies := applies_of_mem ps.links_eq hl
  rcases hd with hd | hd <;> rw [hd] at happlies <;>
    exact Link.target_ne_owner_of_isPairable happlies.1

/-- A link in a join table of its own entity leads to this entity. -/
theorem target_eq_owner {l : StoredLink} (hl : l ∈ ps.links) (hd : l.decision = .selfJoinTable) :
    l.target = l.owner := by
  have happlies := applies_of_mem ps.links_eq hl
  rw [hd] at happlies
  exact of_decide_eq_true happlies.2.2.2

/-- The join table of a link is a self-join, or it is made under the link's own name, or under the
one of its other half. -/
theorem joinTable_cases {l : StoredLink} (hl : l ∈ joinedLinks ps.links) :
    (l.decision = .selfJoinTable ∧
      joinTable ps.idTypes ps.links l = selfJoin ps.idTypes l.toLink) ∨
    (l.decision ≠ .selfJoinTable ∧ ∃ m ∈ ps.links, (m = l ∨ l.IsHalfOf m) ∧
      m.target ≠ m.owner ∧ joinTable ps.idTypes ps.links l = ownJoin ps.idTypes m.toLink) := by
  obtain ⟨hl, huses⟩ := mem_joinedLinks.1 hl
  cases hd : l.decision with
  | selfJoinTable =>
    rw [joinTable, hd]
    exact .inl ⟨rfl, rfl⟩
  | joinTable =>
    rw [joinTable, hd]
    exact .inr ⟨by decide, l, hl, .inl rfl, ps.target_ne_owner hl (.inl hd), rfl⟩
  | sharedJoinTable =>
    obtain ⟨other, hother, hhalf⟩ := exists_half ps.links_eq hl hd
    rw [ps.joinTable_of_half hother hhalf]
    -- A shared join table is made under the smaller of the two names.
    split
    · exact .inr ⟨by decide, other, hother, .inr hhalf,
        ps.target_ne_owner hother (.inr hhalf.2.1), rfl⟩
    · exact .inr ⟨by decide, l, hl, .inl rfl, ps.target_ne_owner hl (.inr hd), rfl⟩
  | foreignKey | json | derived => simp [hd, StorageDecision.usesJoinTable] at huses

/-- Between two entities, the columns of a join table have different names. -/
theorem ownJoin_columns_ne {l : StoredLink} (hl : l ∈ ps.links) (hne : l.target ≠ l.owner) :
    (ownJoin ps.idTypes l.toLink).owner.name ≠ (ownJoin ps.idTypes l.toLink).target.name := by
  intro heq
  obtain ⟨hdeclares, -, htarget⟩ := of_mem_storedLinks ps.links_eq hl
  exact hne (tableName_inj ps.idTypes_eq hdeclares.contains_owner htarget
    (Naming.tableName_eq_of_idColumn_eq heq)).symm

/-- The columns of a join table have one name exactly in a self-join whose field is called like the
entity in snake case. -/
theorem joinTable_columns_eq_iff {l : StoredLink} (hl : l ∈ joinedLinks ps.links) :
    (joinTable ps.idTypes ps.links l).owner.name = (joinTable ps.idTypes ps.links l).target.name ↔
      l.decision = .selfJoinTable ∧ l.field = Naming.snake l.owner := by
  rcases ps.joinTable_cases hl with ⟨hd, hjoin⟩ | ⟨hd, m, hm, -, hne, hjoin⟩
  · have hcolumns : (selfJoin ps.idTypes l.toLink).owner.name = Naming.snake l.owner ++ "_id" ∧
        (selfJoin ps.idTypes l.toLink).target.name = l.field ++ "_id" := ⟨rfl, rfl⟩
    rw [hjoin, hcolumns.1, hcolumns.2, String.append_left_inj, eq_comm]
    exact (and_iff_right hd).symm
  · rw [hjoin]
    exact iff_of_false (ps.ownJoin_columns_ne hm hne) fun h => hd h.1

end Passes

/-! ## Fields called like their entity -/

/-- The entity has a relationship to itself for a join table, and its field is called like the
entity in snake case. -/
def NamesItself (s : Schema) (owner : String) : Prop :=
  ∃ r, s.Declares owner (Naming.snake owner) r ∧ r.target = owner ∧ r.storage = .automatic ∧
    s.HasShape owner (Naming.snake owner) true

/-- A relationship of that kind has a self-join. -/
theorem Passes.exists_selfJoin {s : Schema} {p : Plan} (ps : Passes s p) {owner : String}
    (h : s.NamesItself owner) : ∃ l ∈ joinedLinks ps.links, l.decision = .selfJoinTable ∧
      l.owner = owner ∧ l.field = Naming.snake owner ∧
      (joinTable ps.idTypes ps.links l).name = joinName owner (Naming.snake owner) := by
  obtain ⟨r, hr, htarget, hstorage, hshape⟩ := h
  obtain ⟨l, hl, hlink⟩ := exists_storedLink_of_shape ps.links_eq hr hshape
  have hself : l.isSelfJoin = true := by
    rw [hlink]
    exact decide_eq_true htarget
  have hd : l.decision = .selfJoinTable := by
    refine decision_eq_of_applies ps.links_eq hl ⟨?_, ?_, ?_, hself⟩
    · exact congrArg Link.isArray hlink
    · exact (congrArg (·.relationship.storage) hlink).trans hstorage
    · simp [Link.facts, Link.ownFacts, Link.hasInverseKey, hself]
  have howner : l.owner = owner := congrArg Link.owner hlink
  have hfield : l.field = Naming.snake owner := congrArg Link.field hlink
  refine ⟨l, mem_joinedLinks.2 ⟨hl, by rw [hd]; rfl⟩, hd, howner, hfield, ?_⟩
  rw [joinTable, hd]
  exact congrArg₂ joinName howner hfield

/-- **The columns of a join table have different names, except where a field is called like its
entity.** A relationship from an entity to itself whose field is the entity's name in snake case
gets a join table with one column name twice, and no other join table has that. -/
theorem joinColumns_name_eq_iff {s : Schema} {p : Plan} (h : s.plan = .ok p) :
    (∀ j ∈ p.joinTables, j.owner.name = j.target.name ↔
      ∃ owner, s.NamesItself owner ∧ j.name = joinName owner (Naming.snake owner)) ∧
    ∀ owner, s.NamesItself owner →
      ∃ j ∈ p.joinTables, j.name = joinName owner (Naming.snake owner) := by
  obtain ⟨ps⟩ := plan_eq_ok_iff.1 h
  constructor
  · intro j hj
    obtain ⟨l, hl, rfl⟩ := ps.mem_joinTables_iff.1 hj
    rw [ps.joinTable_columns_eq_iff hl]
    constructor
    · rintro ⟨hd, hfield⟩
      have hmem := (mem_joinedLinks.1 hl).1
      obtain ⟨hr, hshape, -⟩ := of_mem_storedLinks ps.links_eq hmem
      have happlies := applies_of_mem ps.links_eq hmem
      rw [hd] at happlies
      have harray : l.isArray = true := happlies.1
      rw [hfield] at hr hshape
      rw [harray] at hshape
      refine ⟨l.owner, ⟨_, hr, ps.target_eq_owner hmem hd, happlies.2.1, hshape⟩, ?_⟩
      rw [joinTable, hd, ← hfield]
    · rintro ⟨owner, howner, hname⟩
      obtain ⟨m, hm, hd, rfl, hfield, hmname⟩ := ps.exists_selfJoin howner
      -- The name of a join table tells the table, so the one of the owner's link is this one.
      have heq := ps.joinTable_eq_of_name_eq (mem_joinedLinks.1 hl).1 (mem_joinedLinks.1 hm).1
        (hname.trans hmname.symm)
      rw [← ps.joinTable_columns_eq_iff hl, heq, ps.joinTable_columns_eq_iff hm]
      exact ⟨hd, hfield⟩
  · intro owner howner
    obtain ⟨m, hm, -, -, -, hname⟩ := ps.exists_selfJoin howner
    exact ⟨_, ps.mem_joinTables_iff.2 ⟨m, hm, rfl⟩, hname⟩

/-- A person with other persons under a field of that name. -/
def person : Schema where
  version := ""
  metadata := ⟨""⟩
  idSemantics := none
  enums := ∅
  definitions := ∅
  entities := .ofList [("Person", {
    description := ""
    required := []
    properties := .ofList
      [("id", .primitive "string"), ("person", .arrayOf (.primitive "string"))]
    relationships := .ofList [("person", ⟨"Person", .zeroOrMany, .automatic⟩)]
    naturalKeys := []
    states := none
    invariants := [] })]

/-- The plan of `person`, with a join table that has one column name twice. -/
def personPlan : Plan where
  tables := [⟨"persons", "Person", [⟨"id", .text, true, true, none⟩], []⟩]
  joinTables :=
    [⟨"persons__person", ⟨"person_id", .text, "persons"⟩, ⟨"person_id", .text, "persons"⟩⟩]
  indexes := []
  requiredJoins := []

/-- Planning `person` makes its plan. -/
theorem plan_person : person.plan = .ok personPlan := by decide +kernel

/-- A person has a field that is called like its own identifier in a join table. -/
theorem namesItself_person : person.NamesItself "Person" := by
  have hsnake : Naming.snake "Person" = "person" := by decide
  refine ⟨⟨"Person", .zeroOrMany, .automatic⟩, ?_, rfl, rfl, ?_⟩
  · rw [hsnake]
    exact ⟨_, rfl, rfl⟩
  · rw [hsnake]
    exact ⟨_, _, rfl, rfl, by decide +kernel⟩

/-- The join table of `person` is such an exception. -/
theorem joinColumns_name_eq_person : person.plan = .ok personPlan ∧
    ∃ j ∈ personPlan.joinTables, j.owner.name = j.target.name := by
  refine ⟨plan_person, ?_⟩
  obtain ⟨hcolumns, hexists⟩ := joinColumns_name_eq_iff plan_person
  obtain ⟨j, hj, hname⟩ := hexists "Person" namesItself_person
  exact ⟨j, hj, (hcolumns j hj).2 ⟨"Person", namesItself_person, hname⟩⟩

end Schema

end EntityModel
