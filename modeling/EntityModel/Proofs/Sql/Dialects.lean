import EntityModel.Sql.Script
import Mathlib.Data.List.Perm.Basic

/-! # One model in two dialects

The scripts of a plan for both dialects create the same tables with the same columns, clauses and
constraints, the same indexes and the same foreign keys (`dialects_agree`). They differ in the names
of types, in the triggers, and in where a forward reference stands: in the statement of its table,
or in a statement of its own for Postgres, and never in both. -/

namespace EntityModel.Sql

open Relational

/-! ## Tables -/

/-- A column as a script creates it. -/
structure ColumnDefinition where
  /-- The name. -/
  name : String
  /-- The type, which every dialect calls by a name of its own. -/
  type : ColumnType
  /-- What stands behind the type. -/
  clauses : String
  deriving DecidableEq, Repr

/-- A table as a script creates it, without its foreign keys. -/
structure TableDefinition where
  /-- The name. -/
  name : String
  /-- The columns. -/
  columns : List ColumnDefinition
  /-- What stands behind the columns. -/
  constraints : List String
  deriving DecidableEq, Repr

/-- The definition of a column. -/
def ColumnDefinition.text (d : Dialect) (c : ColumnDefinition) : String :=
  c.name ++ " " ++ typeName d c.type ++ c.clauses

/-- The statement that creates the table with the foreign keys. -/
def TableDefinition.text (d : Dialect) (t : TableDefinition) (foreignKeys : List String) : String :=
  createTableText t.name (t.columns.map (ColumnDefinition.text d) ++ t.constraints ++ foreignKeys)

/-- The `NOT NULL`, `PRIMARY KEY` and `CHECK` clauses of a column. -/
def columnClauses (c : Column) : String :=
  (if c.notNull then " NOT NULL" else "") ++ (if c.primaryKey then " PRIMARY KEY" else "") ++
    match c.allowed with
    | some values => checkClause c.name c.notNull values
    | none => ""

/-- The column of a table as a script creates it. -/
def columnDefinition (c : Column) : ColumnDefinition := ⟨c.name, c.type, columnClauses c⟩

/-- The column of a join table as a script creates it. -/
def joinColumnDefinition (c : JoinColumn) : ColumnDefinition := ⟨c.name, c.type, " NOT NULL"⟩

/-- The table of an entity as a script creates it. -/
def tableDefinition (name : String) (columns : List Column) : TableDefinition :=
  ⟨name, columns.map columnDefinition, []⟩

/-- A join table as a script creates it. -/
def joinTableDefinition (j : JoinTable) : TableDefinition :=
  ⟨j.name, [joinColumnDefinition j.owner, joinColumnDefinition j.target],
    ["PRIMARY KEY (" ++ j.owner.name ++ ", " ++ j.target.name ++ ")"]⟩

namespace Statement

/-- The table that the statement creates. -/
def definitions : Statement → List TableDefinition
  | .createTable name columns _ => [tableDefinition name columns]
  | .createJoinTable join => [joinTableDefinition join]
  | _ => []

/-- The texts of the foreign keys in the statement of a table. -/
def foreignKeyTexts : Statement → List String
  | .createTable _ _ foreignKeys =>
    foreignKeys.map fun key => referenceText key.column key.references
  | .createJoinTable join => [join.owner, join.target].map fun c =>
    referenceText c.name c.references ++ " ON DELETE CASCADE"
  | _ => []

/-- The index that the statement creates. -/
def indexes : Statement → List UniqueIndex
  | .createIndex index => [index]
  | _ => []

/-- The keys of the plan in the statement of a table, with the name of the table. -/
def inlineKeys : Statement → List (String × ForeignKey)
  | .createTable name _ foreignKeys => foreignKeys.map (name, ·)
  | _ => []

/-- The key of the plan that the statement adds to a table. -/
def addedKeys : Statement → List (String × ForeignKey)
  | .addForeignKey table key => [(table, key)]
  | _ => []

/-- The tables, columns and tables referred to of the foreign keys that the statement creates. -/
def references : Statement → List (String × String × String)
  | .createTable name _ foreignKeys =>
    foreignKeys.map fun key => (name, key.column, key.references)
  | .addForeignKey table key => [(table, key.column, key.references)]
  | .createJoinTable join =>
    [join.owner, join.target].map fun c => (join.name, c.name, c.references)
  | _ => []

end Statement

/-- The text of a column is the one of its definition. -/
theorem columnText_eq (d : Dialect) (c : Column) :
    columnText d c = (columnDefinition c).text d := by
  unfold columnText ColumnDefinition.text columnDefinition columnClauses
  cases c.allowed <;> simp only [String.append_assoc]

/-- The statement of a table is its definition with its foreign keys, in every dialect. -/
theorem text_of_mem_definitions (d : Dialect) {st : Statement} {t : TableDefinition}
    (h : t ∈ st.definitions) : st.text d = t.text d st.foreignKeyTexts := by
  cases st with
  | createTable name columns foreignKeys =>
    obtain rfl := List.mem_singleton.1 h
    have hcolumns : columns.map (columnText d) =
        (columns.map columnDefinition).map (ColumnDefinition.text d) := by
      rw [List.map_map]
      exact List.map_congr_left fun c _ => columnText_eq d c
    show createTableText _ (_ ++ _) = createTableText _ (_ ++ [] ++ _)
    rw [hcolumns, List.append_nil]
    rfl
  | createJoinTable join =>
    obtain rfl := List.mem_singleton.1 h
    rfl
  | addForeignKey | createIndex | createFunction | dropTrigger | createTrigger =>
    exact absurd h List.not_mem_nil

/-! ## Parts of a script -/

/-- The keys of a plan, with the names of their tables. -/
def planKeys (p : Plan) : List (String × ForeignKey) :=
  p.tables.flatMap fun t => t.foreignKeys.map (t.name, ·)

/-- What is read off the statements of a plan, if nothing is read off the ones of triggers, is read
off its parts. -/
theorem flatMap_statements {α : Type} {f : Statement → List α}
    (hfunction : ∀ g, f (.createFunction g) = []) (hdrop : ∀ g r, f (.dropTrigger g r) = [])
    (hcreate : ∀ g r, f (.createTrigger g r) = []) (d : Dialect) (p : Plan) :
    (statements d p).flatMap f =
      p.tables.flatMap (fun t => f (tableStatement d t)) ++
        (if d = .postgres then p.tables.flatMap fun t =>
          (t.foreignKeys.filter (·.forward)).flatMap fun key => f (.addForeignKey t.name key)
        else []) ++
        p.joinTables.flatMap (fun j => f (.createJoinTable j)) ++
        p.indexes.flatMap fun i => f (.createIndex i) := by
  have htriggers : (triggerStatements p.requiredJoins).flatMap f = [] := by
    unfold triggerStatements
    split
    · rfl
    · rw [List.flatMap_append, List.flatMap_assoc]
      simp [requiredJoinStatements, hfunction, hdrop, hcreate]
  cases d with
  | postgres =>
    simp [statements, Dialect.needsReferencedTables, Dialect.hasConstraintTriggers,
      List.flatMap_append, List.flatMap_assoc, List.flatMap_map, forwardStatements, htriggers]
  | sqlite =>
    simp [statements, Dialect.needsReferencedTables, Dialect.hasConstraintTriggers,
      List.flatMap_append, List.flatMap_map]

/-- Elements that give nothing give nothing together. -/
theorem flatMap_nil {α β : Type} (xs : List α) : xs.flatMap (fun _ => ([] : List β)) = [] :=
  List.flatMap_eq_nil_iff.2 fun _ _ => rfl

/-- The tables of a script are those of the plan, in every dialect. -/
theorem definitions_statements (d : Dialect) (p : Plan) :
    (statements d p).flatMap Statement.definitions =
      (p.tables.map fun t => tableDefinition t.name t.columns) ++
        p.joinTables.map joinTableDefinition := by
  rw [flatMap_statements (fun _ => rfl) (fun _ _ => rfl) (fun _ _ => rfl)]
  simp [Statement.definitions, tableStatement, flatMap_nil, ← List.map_eq_flatMap]

/-- The indexes of a script are those of the plan, in every dialect. -/
theorem indexes_statements (d : Dialect) (p : Plan) :
    (statements d p).flatMap Statement.indexes = p.indexes := by
  rw [flatMap_statements (fun _ => rfl) (fun _ _ => rfl) (fun _ _ => rfl)]
  simp [Statement.indexes, tableStatement, flatMap_nil]

/-! ## Foreign keys -/

/-- The keys in the statements of tables: all of the plan, but for Postgres no forward ones. -/
theorem inlineKeys_statements (d : Dialect) (p : Plan) :
    (statements d p).flatMap Statement.inlineKeys =
      (planKeys p).filter fun key => !(d = .postgres && key.2.forward) := by
  rw [flatMap_statements (fun _ => rfl) (fun _ _ => rfl) (fun _ _ => rfl), planKeys,
    List.filter_flatMap]
  simp [Statement.inlineKeys, tableStatement, flatMap_nil, List.filter_map, Function.comp_def,
    Dialect.needsReferencedTables]

/-- The keys in statements of their own: for Postgres the forward ones. -/
theorem addedKeys_statements (d : Dialect) (p : Plan) :
    (statements d p).flatMap Statement.addedKeys =
      (planKeys p).filter fun key => d = .postgres && key.2.forward := by
  rw [flatMap_statements (fun _ => rfl) (fun _ _ => rfl) (fun _ _ => rfl), planKeys,
    List.filter_flatMap]
  cases d with
  | postgres =>
    simp [Statement.addedKeys, tableStatement, flatMap_nil, List.filter_map, Function.comp_def,
      ← List.map_eq_flatMap]
  | sqlite => simp [Statement.addedKeys, tableStatement, flatMap_nil]

/-- The foreign keys of a script are the keys of the plan and those of its join tables. -/
theorem references_statements_perm (d : Dialect) (p : Plan) :
    ((statements d p).flatMap Statement.references).Perm
      ((planKeys p).map (fun key => (key.1, key.2.column, key.2.references)) ++
        p.joinTables.flatMap fun j =>
          [(j.name, j.owner.name, j.owner.references),
            (j.name, j.target.name, j.target.references)]) := by
  let reference (t : Table) (key : ForeignKey) := (t.name, key.column, key.references)
  have hkeys : (planKeys p).map (fun key => (key.1, key.2.column, key.2.references)) =
      p.tables.flatMap fun t => t.foreignKeys.map (reference t) := by
    simp [planKeys, List.map_flatMap, Function.comp_def, reference]
  rw [flatMap_statements (fun _ => rfl) (fun _ _ => rfl) (fun _ _ => rfl), hkeys]
  cases d with
  | postgres =>
    have htable : ∀ t : Table, ((t.foreignKeys.filter fun key => !key.forward).map (reference t) ++
        (t.foreignKeys.filter (·.forward)).map (reference t)).Perm
          (t.foreignKeys.map (reference t)) := by
      intro t
      rw [← List.map_append]
      exact (List.perm_append_comm.trans (List.filter_append_perm _ _)).map _
    have htables := (List.flatMap_append_perm p.tables _ _).trans
      (List.Perm.flatMap_left p.tables fun t _ => htable t)
    simpa [Statement.references, tableStatement, flatMap_nil, Dialect.needsReferencedTables,
      ← List.map_eq_flatMap] using htables.append_right _
  | sqlite =>
    simp [Statement.references, tableStatement, flatMap_nil, Dialect.needsReferencedTables,
      reference]

/-! ## Both dialects -/

/-- **Both dialects describe one model.** Their scripts create the tables of the plan in its order,
with the same columns, clauses and constraints, and the same indexes; the text of a statement that
creates a table differs in the names of types only. They create the same foreign keys. All keys of
the plan stand in the statements of their tables for SQLite; for Postgres, those that are not
forward do, and the forward ones, and no others, are added by statements of their own. -/
theorem dialects_agree (p : Plan) :
    (∀ d, (statements d p).flatMap Statement.definitions =
      (p.tables.map fun t => tableDefinition t.name t.columns) ++
        p.joinTables.map joinTableDefinition) ∧
    (∀ d, ∀ st ∈ statements d p, ∀ t ∈ st.definitions, st.text d = t.text d st.foreignKeyTexts) ∧
    (∀ d, (statements d p).flatMap Statement.indexes = p.indexes) ∧
    (∀ i, (Statement.createIndex i).text .postgres = (Statement.createIndex i).text .sqlite) ∧
    ((statements .postgres p).flatMap Statement.references).Perm
      ((statements .sqlite p).flatMap Statement.references) ∧
    (statements .sqlite p).flatMap Statement.inlineKeys = planKeys p ∧
    (statements .sqlite p).flatMap Statement.addedKeys = [] ∧
    (statements .postgres p).flatMap Statement.inlineKeys =
      (planKeys p).filter (fun key => !key.2.forward) ∧
    (statements .postgres p).flatMap Statement.addedKeys =
      (planKeys p).filter (fun key => key.2.forward) := by
  refine ⟨fun d => definitions_statements d p, fun d st _ t ht => text_of_mem_definitions d ht,
    fun d => indexes_statements d p, fun i => rfl, ?_, ?_, ?_, ?_, ?_⟩
  · exact (references_statements_perm .postgres p).trans (references_statements_perm .sqlite p).symm
  · simp [inlineKeys_statements]
  · simp [addedKeys_statements]
  · simp [inlineKeys_statements]
  · simp [addedKeys_statements]

end EntityModel.Sql
