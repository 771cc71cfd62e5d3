import EntityModel.Proofs.Capitals
import EntityModel.Proofs.Sql.Script

/-! # Arguments of triggers

A trigger is told the names of a table and a column in string literals. In a statement, a name
without quotes is read in lower case, whereas the functions of the triggers take their arguments as
they stand. So an argument leads to what the script creates only if it has no capital. The tables of
entities and the columns of join tables are in snake case and can be found; a join table can be
found unless the field that it is named after has a capital (`denotes_arguments`). -/

namespace EntityModel

open Relational Naming

namespace Sql

/-- The statements create a table of the name, read in lower case. -/
def DenotesTable (sts : List Statement) (argument : String) : Prop :=
  ∃ st ∈ sts, ∃ name, .table name ∈ st.creates ∧ name.toLower = argument

/-- The statements create the join table with a column of the name, read in lower case. -/
def DenotesColumn (sts : List Statement) (join argument : String) : Prop :=
  ∃ j, .createJoinTable j ∈ sts ∧ j.name = join ∧ ∃ c ∈ j.columns, c.name.toLower = argument

/-- A name with a capital leads to no table. -/
theorem DenotesTable.not_hasCapital {sts : List Statement} {argument : String}
    (h : DenotesTable sts argument) : ¬HasCapital argument := by
  obtain ⟨st, -, name, -, rfl⟩ := h
  exact not_hasCapital_toLower name

/-- A table without capitals is found under its name. -/
theorem denotesTable_of_creates {sts : List Statement} {st : Statement} {name : String}
    (hst : st ∈ sts) (hname : .table name ∈ st.creates) (h : ¬HasCapital name) :
    DenotesTable sts name :=
  ⟨st, hst, name, hname, toLower_eq_self_iff.2 h⟩

variable {p : Plan}

/-- The script creates every table of the plan. -/
theorem createTable_mem {t : Table} (ht : t ∈ p.tables) :
    tableStatement .postgres t ∈ statements .postgres p := by
  rw [statements_postgres]
  exact List.mem_append_left _ (List.mem_map.2 ⟨t, ht, rfl⟩)

/-- The script creates every join table of the plan. -/
theorem createJoinTable_mem {j : JoinTable} (hj : j ∈ p.joinTables) :
    .createJoinTable j ∈ statements .postgres p := by
  rw [statements_postgres]
  refine List.mem_append_right _ (List.mem_append_right _ (List.mem_append_left _ ?_))
  exact List.mem_map.2 ⟨j, hj, rfl⟩

/-- A join table is found under its name exactly if the name has no capital. -/
theorem denotesTable_joinTable_iff {j : JoinTable} (hj : j ∈ p.joinTables) :
    DenotesTable (statements .postgres p) j.name ↔ ¬HasCapital j.name :=
  ⟨DenotesTable.not_hasCapital,
    denotesTable_of_creates (createJoinTable_mem hj) (List.mem_singleton_self _)⟩

end Sql

namespace Schema.Passes

open Sql

variable {s : Schema} {p : Plan} (ps : Passes s p)

include ps

/-- The table of an entity is found under its name. -/
theorem denotesTable_tableName {name : String} (h : s.entities.contains name = true) :
    DenotesTable (statements .postgres p) (tableName name) := by
  obtain ⟨t, ht, rfl⟩ := ps.exists_table h
  have hcreates : .table t.name ∈ (tableStatement .postgres t).creates := List.mem_singleton_self _
  rw [ps.name_of_mem ht] at hcreates
  exact denotesTable_of_creates (createTable_mem ht) hcreates (not_hasCapital_tableName _)

/-- The column of a required join is found in the join table. -/
theorem denotesColumn_requiredJoin {l : StoredLink} (hl : l ∈ joinedLinks ps.links) :
    DenotesColumn (statements .postgres p) (joinTable ps.idTypes ps.links l).name
      (idColumn l.owner) := by
  obtain ⟨c, hc, hname⟩ := ps.exists_ownerColumn hl
  refine ⟨_, createJoinTable_mem (ps.mem_joinTables_iff.2 ⟨l, hl, rfl⟩), rfl, c, hc, ?_⟩
  rw [hname]
  exact toLower_eq_self_iff.2 (not_hasCapital_idColumn l.owner)

end Schema.Passes

namespace Sql

/-- **The arguments of a trigger lead to what the script creates, unless a field with a capital gave
the join table its name.** The table of the entity and the column have no capitals and are always
found; the join table is found exactly if the field has no capital. -/
theorem denotes_arguments {s : Schema} {p : Plan} (h : s.plan = .ok p) {q : RequiredJoin}
    (hq : q ∈ p.requiredJoins) :
    (¬HasCapital (triggerArgument .link q) ∧
      DenotesTable (statements .postgres p) (triggerArgument .link q)) ∧
    (¬HasCapital q.column ∧ DenotesColumn (statements .postgres p) q.joinTable q.column) ∧
    ∃ owner field r, s.Declares owner field r ∧
      triggerArgument .parent q = Schema.joinName owner field ∧
      (HasCapital (triggerArgument .parent q) ↔ HasCapital field) ∧
      (DenotesTable (statements .postgres p) (triggerArgument .parent q) ↔ ¬HasCapital field) := by
  obtain ⟨ps⟩ := Schema.plan_eq_ok_iff.1 h
  obtain ⟨l, hl, -, rfl⟩ := ps.mem_requiredJoins_iff.1 hq
  have hmem := (Schema.mem_joinedLinks.1 hl).1
  have hdeclares := (Schema.of_mem_storedLinks ps.links_eq hmem).1
  obtain ⟨m, hm, hname⟩ := ps.exists_joinName hmem
  have hcapital :
      HasCapital (Schema.joinTable ps.idTypes ps.links l).name ↔ HasCapital m.field := by
    rw [hname, Schema.joinName]
    exact hasCapital_joined_iff
  refine ⟨⟨not_hasCapital_tableName l.owner, ps.denotesTable_tableName hdeclares.contains_owner⟩,
    ?_, m.owner, m.field, _, (Schema.of_mem_storedLinks ps.links_eq hm).1, hname, hcapital, ?_⟩
  · rw [ps.column_requiredJoin hl]
    exact ⟨not_hasCapital_idColumn l.owner, ps.denotesColumn_requiredJoin hl⟩
  · rw [← hcapital]
    exact denotesTable_joinTable_iff (ps.mem_joinTables_iff.2 ⟨l, hl, rfl⟩)

/-- Owners who need clubs, in a field with a capital. -/
def clubOwners : Schema where
  version := ""
  metadata := ⟨""⟩
  idSemantics := none
  enums := ∅
  definitions := ∅
  entities := .ofList
    [("Club", {
      description := ""
      required := []
      properties := .ofList [("id", .primitive "string")]
      relationships := ∅
      naturalKeys := []
      states := none
      invariants := [] }),
    ("Owner", {
      description := ""
      required := ["clubIds"]
      properties := .ofList
        [("id", .primitive "string"), ("clubIds", .arrayOf (.primitive "string"))]
      relationships := .ofList [("clubIds", ⟨"Club", .oneOrMany, .automatic⟩)]
      naturalKeys := []
      states := none
      invariants := [] })]

/-- The plan of `clubOwners`. -/
def clubOwnersPlan : Plan where
  tables :=
    [⟨"clubs", "Club", [⟨"id", .text, true, true, none⟩], []⟩,
      ⟨"owners", "Owner", [⟨"id", .text, true, true, none⟩], []⟩]
  joinTables :=
    [⟨"owners__clubIds", ⟨"owner_id", .text, "owners"⟩, ⟨"club_id", .text, "clubs"⟩⟩]
  indexes := []
  requiredJoins := [⟨"owners__clubIds", "owner_id", "owners"⟩]

/-- Planning `clubOwners` makes its plan. -/
theorem plan_clubOwners : clubOwners.plan = .ok clubOwnersPlan := by decide +kernel

/-- The trigger of the owners looks for a join table that no statement creates. -/
theorem denotes_arguments_clubOwners : clubOwners.plan = .ok clubOwnersPlan ∧
    ⟨"owners__clubIds", "owner_id", "owners"⟩ ∈ clubOwnersPlan.requiredJoins ∧
    HasCapital "owners__clubIds" ∧
    ¬DenotesTable (statements .postgres clubOwnersPlan) "owners__clubIds" := by
  have hq : ⟨"owners__clubIds", "owner_id", "owners"⟩ ∈ clubOwnersPlan.requiredJoins :=
    List.mem_singleton_self _
  have hcapital : HasCapital "owners__clubIds" := by decide +kernel
  obtain ⟨-, -, owner, field, r, -, -, hiff, hdenotes⟩ := denotes_arguments plan_clubOwners hq
  exact ⟨plan_clubOwners, hq, hcapital, fun hfound => hdenotes.1 hfound (hiff.1 hcapital)⟩

end Sql

end EntityModel
