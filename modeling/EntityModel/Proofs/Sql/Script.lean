import EntityModel.Proofs.Relational.RelationNames
import EntityModel.Proofs.Relational.RequiredJoins
import EntityModel.Sql.Script

/-! # Scripts that can be run

A statement needs tables and functions, and creates some. The statements for Postgres can be run one
after another (`statements_created_before`): what each of them needs was created before it, or is
the table that it creates itself. -/

namespace EntityModel

open Relational

namespace Sql

/-! ## What statements need -/

/-- What a statement can create. -/
inductive Object where
  /-- A table. -/
  | table (name : String)
  /-- A function of triggers. -/
  | function (f : TriggerFunction)
  deriving DecidableEq, Repr

namespace Statement

/-- What the statement creates for other ones. -/
def creates : Statement → List Object
  | .createTable name _ _ => [.table name]
  | .createJoinTable join => [.table join.name]
  | .createFunction f => [.function f]
  | .addForeignKey _ _ | .createIndex _ | .dropTrigger _ _ | .createTrigger _ _ => []

/-- What the text of the statement names: the tables behind `REFERENCES`, `ALTER TABLE` and `ON`,
and the function that a trigger executes. -/
def needs : Statement → List Object
  | .createTable _ _ foreignKeys => foreignKeys.map fun key => .table key.references
  | .addForeignKey table key => [.table table, .table key.references]
  | .createJoinTable join => [.table join.owner.references, .table join.target.references]
  | .createIndex index => [.table index.table]
  | .createFunction _ => []
  | .dropTrigger f join => [.table (triggerTable f join)]
  | .createTrigger f join => [.table (triggerTable f join), .function f]

/-- The object is the table of an entity that the statement itself creates. -/
def IsOwn (st : Statement) (o : Object) : Prop :=
  ∃ name columns foreignKeys, st = .createTable name columns foreignKeys ∧ o = .table name

end Statement

/-! ## Statements one after another -/

/-- The statements can be run in their order, where some objects exist already. -/
def Runs (known : List Object) : List Statement → Prop
  | [] => True
  | st :: rest => (∀ o ∈ st.needs, o ∈ known ∨ st.IsOwn o) ∧ Runs (known ++ st.creates) rest

/-- Statements can be run in front of others if both can, the latter with what the former create. -/
theorem runs_append {known : List Object} {xs ys : List Statement} :
    Runs known (xs ++ ys) ↔ Runs known xs ∧ Runs (known ++ xs.flatMap Statement.creates) ys := by
  induction xs generalizing known with
  | nil => simp [Runs]
  | cons st xs ih =>
    rw [List.cons_append, Runs, Runs, ih, List.flatMap_cons, List.append_assoc, and_assoc]

/-- Statements that need nothing new can be run in any order. -/
theorem runs_of_known {known : List Object} {xs : List Statement}
    (h : ∀ st ∈ xs, ∀ o ∈ st.needs, o ∈ known) : Runs known xs := by
  induction xs generalizing known with
  | nil => trivial
  | cons st xs ih =>
    refine ⟨fun o ho => .inl (h st List.mem_cons_self o ho), ih fun st' hst' o ho => ?_⟩
    exact List.mem_append_left _ (h st' (List.mem_cons_of_mem _ hst') o ho)

/-- Where statements can be run, the ones before a statement create what it needs. -/
theorem Runs.of_split {known : List Object} {before after : List Statement} {st : Statement}
    (h : Runs known (before ++ st :: after)) {o : Object} (ho : o ∈ st.needs) :
    o ∈ known ∨ (∃ earlier ∈ before, o ∈ earlier.creates) ∨ st.IsOwn o := by
  obtain ⟨-, hneeds, -⟩ := runs_append.1 h
  rcases hneeds o ho with hmem | hown
  · rcases List.mem_append.1 hmem with hknown | hcreated
    · exact .inl hknown
    · exact .inr (.inl (List.mem_flatMap.1 hcreated))
  · exact .inr (.inr hown)

/-- All tables of the names exist. -/
def HasTables (known : List Object) (names : List String) : Prop :=
  ∀ name ∈ names, .table name ∈ known

/-- More objects leave the tables that exist. -/
theorem HasTables.append {known : List Object} {names : List String} (h : HasTables known names)
    (more : List Object) : HasTables (known ++ more) names :=
  fun name hname => List.mem_append_left _ (h name hname)

/-- Statements that create a table each leave all of these tables. -/
theorem hasTables_of_creates {α : Type*} {f : α → Statement} {name : α → String}
    (h : ∀ x, .table (name x) ∈ (f x).creates) (known : List Object) (xs : List α) :
    HasTables (known ++ (xs.map f).flatMap Statement.creates) (xs.map name) := by
  intro other hother
  obtain ⟨x, hx, rfl⟩ := List.mem_map.1 hother
  have hst : f x ∈ xs.map f := List.mem_map.2 ⟨x, hx, rfl⟩
  exact List.mem_append_right _ (List.mem_flatMap.2 ⟨f x, hst, h x⟩)

/-- The script of a plan for Postgres has five parts. -/
theorem statements_postgres (p : Plan) : statements .postgres p =
    p.tables.map (tableStatement .postgres) ++ (p.tables.flatMap forwardStatements ++
      (p.joinTables.map .createJoinTable ++ (p.indexes.map .createIndex ++
        triggerStatements p.requiredJoins))) := by
  simp [statements, Dialect.needsReferencedTables, Dialect.hasConstraintTriggers]

/-- The triggers of a required join need their tables and functions. -/
theorem exists_function_of_needs {r : RequiredJoin} {st : Statement} {o : Object}
    (hst : st ∈ requiredJoinStatements r) (ho : o ∈ st.needs) :
    (∃ f, o = .table (triggerTable f r)) ∨ ∃ f, o = .function f := by
  have hdrop : ∀ f, o ∈ (Statement.dropTrigger f r).needs → ∃ f, o = .table (triggerTable f r) :=
    fun f h => ⟨f, List.mem_singleton.1 h⟩
  have hcreate : ∀ f, o ∈ (Statement.createTrigger f r).needs →
      (∃ f, o = .table (triggerTable f r)) ∨ ∃ f, o = .function f := by
    intro f h
    rcases List.mem_cons.1 h with rfl | h
    · exact .inl ⟨f, rfl⟩
    · exact .inr ⟨f, List.mem_singleton.1 h⟩
  simp only [requiredJoinStatements, List.mem_cons, List.not_mem_nil, or_false] at hst
  rcases hst with rfl | rfl | rfl | rfl
  · exact .inl (hdrop .parent ho)
  · exact hcreate .parent ho
  · exact .inl (hdrop .link ho)
  · exact hcreate .link ho

end Sql

/-! ## The parts of a script -/

namespace Schema.Passes

open Sql

variable {s : Schema} {p : Plan} (ps : Passes s p) {known : List Object}

include ps

/-- The foreign keys in the statement of a table lead to tables before it, or to the table itself:
forward references are left out. -/
theorem runs_tables : Runs [] (p.tables.map (tableStatement .postgres)) := by
  suffices ∀ before after : List Table, p.tables = before ++ after →
      Runs (before.map fun t => .table t.name) (after.map (tableStatement .postgres)) from
    this [] p.tables rfl
  intro before after hsplit
  -- The tables in `before` exist, and the ones in `after` are still to come.
  induction after generalizing before with
  | nil => trivial
  | cons t after ih =>
    refine ⟨fun o ho => ?_, ?_⟩
    · obtain ⟨key, hkey, rfl⟩ := List.mem_map.1 ho
      obtain ⟨hkey, hinline⟩ := List.mem_filter.1 hkey
      have hmem : t ∈ p.tables := hsplit ▸ List.mem_append_right _ List.mem_cons_self
      have htarget := ps.exists_table_of_key hmem hkey
      have hforward := Table.forward_iff_later ps.nodup_names_tables
        (ps.tables_eq_creationOrder.symm.trans hsplit) hkey
      have hbackward : key.forward ≠ true := by simpa [Dialect.needsReferencedTables] using hinline
      rw [hsplit, List.map_append, List.map_cons, List.mem_append, List.mem_cons] at htarget
      rcases htarget with hearlier | hself | hlater
      · obtain ⟨u, hu, hname⟩ := List.mem_map.1 hearlier
        exact .inl (List.mem_map.2 ⟨u, hu, congrArg Object.table hname⟩)
      · exact .inr ⟨_, _, _, rfl, congrArg Object.table hself⟩
      · by_cases hself : key.references = t.name
        · exact .inr ⟨_, _, _, rfl, congrArg Object.table hself⟩
        · -- A key to a later table is marked as forward, so it does not stand in the statement.
          exact absurd (hforward.2 ⟨hself, hlater⟩) hbackward
    · have hrest := ih (before ++ [t]) (by rw [hsplit, List.append_assoc]; rfl)
      rw [List.map_append] at hrest
      exact hrest

/-- Forward references are added when all tables exist. -/
theorem runs_forward (htables : HasTables known (p.tables.map (·.name))) :
    Runs known (p.tables.flatMap forwardStatements) := by
  refine runs_of_known fun st hst o ho => ?_
  obtain ⟨t, ht, hst⟩ := List.mem_flatMap.1 hst
  obtain ⟨key, hkey, rfl⟩ := List.mem_map.1 hst
  rcases List.mem_cons.1 ho with rfl | ho
  · exact htables _ (List.mem_map.2 ⟨t, ht, rfl⟩)
  · obtain rfl := List.mem_singleton.1 ho
    exact htables _ (ps.exists_table_of_key ht (List.mem_filter.1 hkey).1)

/-- Join tables can be created once the tables of the entities exist. -/
theorem runs_joinTables (htables : HasTables known (p.tables.map (·.name))) :
    Runs known (p.joinTables.map .createJoinTable) := by
  refine runs_of_known fun st hst o ho => ?_
  obtain ⟨j, hj, rfl⟩ := List.mem_map.1 hst
  obtain ⟨howner, htarget⟩ := ps.exists_tables_of_joinTable hj
  rcases List.mem_cons.1 ho with rfl | ho
  · exact htables _ howner
  · obtain rfl := List.mem_singleton.1 ho
    exact htables _ htarget

/-- Indexes can be created once the tables of the entities exist. -/
theorem runs_indexes (htables : HasTables known (p.tables.map (·.name))) :
    Runs known (p.indexes.map .createIndex) := by
  refine runs_of_known fun st hst o ho => ?_
  obtain ⟨index, hindex, rfl⟩ := List.mem_map.1 hst
  obtain ⟨name, hname, htable, -⟩ := ps.exists_entity_of_index hindex
  obtain rfl := List.mem_singleton.1 ho
  rw [htable]
  exact htables _ (ps.tableName_mem hname)

/-- The tables of a required join's triggers exist. -/
theorem triggerTable_mem {r : RequiredJoin} (hr : r ∈ p.requiredJoins) (f : TriggerFunction)
    (htables : HasTables known (p.tables.map (·.name)))
    (hjoins : HasTables known (p.joinTables.map (·.name))) :
    .table (triggerTable f r) ∈ known := by
  cases f with
  | parent =>
    obtain ⟨owner, howner, hparent, -⟩ := ps.exists_owner_of_requiredJoin hr
    exact htables r.parentTable (hparent ▸ ps.tableName_mem howner)
  | link =>
    obtain ⟨j, hj, hname⟩ := ps.exists_joinTable_of_requiredJoin hr
    exact hjoins r.joinTable (List.mem_map.2 ⟨j, hj, hname⟩)

/-- The functions come first, and then the triggers that call them. -/
theorem runs_triggers (htables : HasTables known (p.tables.map (·.name)))
    (hjoins : HasTables known (p.joinTables.map (·.name))) :
    Runs known (triggerStatements p.requiredJoins) := by
  unfold triggerStatements
  split
  · trivial
  · rw [runs_append]
    refine ⟨runs_of_known (by simp [Statement.needs]), runs_of_known fun st hst o ho => ?_⟩
    obtain ⟨r, hr, hst⟩ := List.mem_flatMap.1 hst
    rcases exists_function_of_needs hst ho with ⟨f, rfl⟩ | ⟨f, rfl⟩
    · exact List.mem_append_left _ (ps.triggerTable_mem hr f htables hjoins)
    · exact List.mem_append_right _ (by cases f <;> decide)

/-- The statements of a plan for Postgres can be run in their order. -/
theorem runs_statements : Runs [] (statements .postgres p) := by
  rw [statements_postgres, runs_append, runs_append, runs_append, runs_append]
  have htables : HasTables ([] ++ (p.tables.map (tableStatement .postgres)).flatMap
      Statement.creates) (p.tables.map (·.name)) :=
    hasTables_of_creates (fun _ => List.mem_singleton.2 rfl) [] p.tables
  have hforward := htables.append (p.tables.flatMap forwardStatements |>.flatMap Statement.creates)
  have hjoins := hforward.append (p.joinTables.map .createJoinTable |>.flatMap Statement.creates)
  refine ⟨ps.runs_tables, ps.runs_forward htables, ps.runs_joinTables hforward,
    ps.runs_indexes hjoins, ps.runs_triggers (hjoins.append _) ?_⟩
  exact (hasTables_of_creates (fun _ => List.mem_singleton.2 rfl) _ p.joinTables).append _

end Schema.Passes

namespace Sql

open Schema (kennelPlan plan_kennel)

/-- A schema has a script if it can be planned. -/
theorem generate_eq_ok_iff {d : Dialect} {b : Banner} {s : Schema} {script : String} :
    generate d b s = .ok script ↔ ∃ p, s.plan = .ok p ∧ script = render d b p := by
  rw [generate]
  cases s.plan <;> simp [Functor.map, Except.map, eq_comm]

/-- **No statement for Postgres names a table or a function before it exists.** Whatever a statement
needs is created by a statement before it; only the table of an entity may refer to itself. -/
theorem statements_created_before {s : Schema} {p : Plan} (h : s.plan = .ok p)
    {before after : List Statement} {st : Statement}
    (hsplit : statements .postgres p = before ++ st :: after) {o : Object} (ho : o ∈ st.needs) :
    (∃ earlier ∈ before, o ∈ earlier.creates) ∨
      ∃ name columns foreignKeys, st = .createTable name columns foreignKeys ∧
        o = .table name := by
  obtain ⟨ps⟩ := Schema.plan_eq_ok_iff.1 h
  have hruns := ps.runs_statements
  rw [hsplit] at hruns
  exact (hruns.of_split ho).resolve_left List.not_mem_nil

/-- The clubs of an owner are required, so that a trigger checks them, after its function. -/
theorem statements_created_before_kennel :
    statements .postgres kennelPlan = (statements .postgres kennelPlan).take 9 ++
      .createTrigger .parent ⟨"clubs__member_ids", "owner_id", "owners"⟩ ::
        (statements .postgres kennelPlan).drop 10 ∧
    ∃ earlier ∈ (statements .postgres kennelPlan).take 9,
      Object.function .parent ∈ earlier.creates := by
  have hsplit : statements .postgres kennelPlan =
      (statements .postgres kennelPlan).take 9 ++
        .createTrigger .parent ⟨"clubs__member_ids", "owner_id", "owners"⟩ ::
          (statements .postgres kennelPlan).drop 10 := by decide
  refine ⟨hsplit, ?_⟩
  rcases statements_created_before plan_kennel hsplit (o := .function .parent) (by decide)
    with hearlier | ⟨name, columns, foreignKeys, hcreate, -⟩
  · exact hearlier
  · cases hcreate

end Sql

end EntityModel
