import EntityModel.Banner
import EntityModel.Relational.Planner
import EntityModel.Sql.Statement

/-! # Scripts

The script of a plan: a banner, and the statements in an order in which they can be run. A blank
line stands in front of every statement but the ones that create triggers, which follow the removal
of the trigger at once. -/

namespace EntityModel.Sql

open Relational

/-- The statement that creates the table of an entity. Where tables have to exist before they are
referred to, forward references are left out. -/
def tableStatement (d : Dialect) (t : Table) : Statement :=
  .createTable t.name t.columns <|
    t.foreignKeys.filter fun key => !(d.needsReferencedTables && key.forward)

/-- The statements that add the forward references of a table. -/
def forwardStatements (t : Table) : List Statement :=
  (t.foreignKeys.filter (·.forward)).map (.addForeignKey t.name)

/-- The statements of a required join. -/
def requiredJoinStatements (join : RequiredJoin) : List Statement :=
  [.dropTrigger .parent join, .createTrigger .parent join,
    .dropTrigger .link join, .createTrigger .link join]

/-- The statements of required joins, after the functions that their triggers call. -/
def triggerStatements (joins : List RequiredJoin) : List Statement :=
  if joins.isEmpty then []
  else [.createFunction .parent, .createFunction .link] ++ joins.flatMap requiredJoinStatements

/-- The statements of a plan. -/
def statements (d : Dialect) (p : Plan) : List Statement :=
  p.tables.map (tableStatement d) ++
    (if d.needsReferencedTables then p.tables.flatMap forwardStatements else []) ++
    p.joinTables.map .createJoinTable ++
    p.indexes.map .createIndex ++
    if d.hasConstraintTriggers then triggerStatements p.requiredJoins else []

/-- What stands in front of a statement. -/
def separator : Statement → String
  | .createTrigger .. => ""
  | _ => "\n"

/-- The text of a statement in a script. -/
def scriptText (d : Dialect) (s : Statement) : String := separator s ++ s.text d ++ ";\n"

/-- The comments at the start of a script. -/
def bannerText (d : Dialect) (b : Banner) : String :=
  String.join ((b.lines ++ ["Dialect: " ++ d.name]).map fun line => "-- " ++ line ++ "\n")

/-- The script of a plan. -/
def render (d : Dialect) (b : Banner) (p : Plan) : String :=
  bannerText d b ++ String.join ((statements d p).map (scriptText d))

/-- The script of a schema. -/
def generate (d : Dialect) (b : Banner) (s : Schema) : Except GenerateError String :=
  render d b <$> s.plan

/-- The scripts of a schema for both dialects. -/
structure Bundle where
  /-- The script for Postgres. -/
  postgres : String
  /-- The script for SQLite. -/
  sqlite : String
  deriving DecidableEq, Repr

/-- The scripts of a schema, which is planned once. -/
def generateBundle (b : Banner) (s : Schema) : Except GenerateError Bundle := do
  let plan ← s.plan
  return ⟨render .postgres b plan, render .sqlite b plan⟩

end EntityModel.Sql
