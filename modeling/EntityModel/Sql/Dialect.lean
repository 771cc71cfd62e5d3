import EntityModel.Relational.Plan

/-! # SQL dialects

The dialects that plans are rendered for, and what the types of columns are called in them. -/

namespace EntityModel.Sql

open Relational (ColumnType)

/-- A dialect. -/
inductive Dialect where
  /-- The dialect of Postgres. -/
  | postgres
  /-- The dialect of SQLite. -/
  | sqlite
  deriving DecidableEq, Repr

/-- The name of a dialect. -/
def Dialect.name : Dialect → String
  | .postgres => "postgres"
  | .sqlite => "sqlite"

/-- Whether constraints can be checked by triggers at the end of a transaction. -/
def Dialect.hasConstraintTriggers (d : Dialect) : Bool := d = .postgres

/-- Whether a table that is referred to has to exist before. -/
def Dialect.needsReferencedTables (d : Dialect) : Bool := d = .postgres

/-- The name of a column type. -/
def typeName (d : Dialect) : ColumnType → String
  | .text => "TEXT"
  | .uuid => if d = .postgres then "UUID" else "TEXT"
  | .timestamp => if d = .postgres then "TIMESTAMPTZ" else "TEXT"
  | .integer => "INTEGER"
  | .number => if d = .postgres then "DOUBLE PRECISION" else "REAL"
  | .boolean => "BOOLEAN"
  | .json => if d = .postgres then "JSONB" else "TEXT"

end EntityModel.Sql
