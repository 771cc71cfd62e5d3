import EntityModel.Naming
import EntityModel.NameMap

/-! # Relational plans

What is created in a database for a schema, whatever its dialect: tables in the order of their
creation, join tables, unique indexes, and the relationships that need at least one row in a join
table. -/

namespace EntityModel.Relational

/-- The type of a column. -/
inductive ColumnType where
  /-- Text. -/
  | text
  /-- A universally unique identifier. -/
  | uuid
  /-- A point in time. -/
  | timestamp
  /-- A whole number. -/
  | integer
  /-- A number. -/
  | number
  /-- A truth value. -/
  | boolean
  /-- A document. -/
  | json
  deriving DecidableEq, Repr

/-- Whether an identifier may have the type. -/
def ColumnType.isIdentifier : ColumnType → Bool
  | .text | .uuid => true
  | _ => false

/-- A column of a table. -/
structure Column where
  /-- The name. -/
  name : String
  /-- The type. -/
  type : ColumnType
  /-- Whether every row has a value. -/
  notNull : Bool
  /-- Whether it is the key of the table. -/
  primaryKey : Bool
  /-- The values that are allowed, if they are listed. -/
  allowed : Option (List String)
  deriving DecidableEq, Repr

/-- A reference from a column to the rows of a table. -/
structure ForeignKey where
  /-- The column. -/
  column : String
  /-- The table it leads to. -/
  references : String
  /-- Whether that table is created later. -/
  forward : Bool
  deriving DecidableEq, Repr

/-- The table of an entity. -/
structure Table where
  /-- The name. -/
  name : String
  /-- The entity. -/
  entity : String
  /-- The columns: the key, and then the others by name. -/
  columns : List Column
  /-- The foreign keys. -/
  foreignKeys : List ForeignKey
  deriving DecidableEq, Repr

/-- A column of a join table. -/
structure JoinColumn where
  /-- The name. -/
  name : String
  /-- The type. -/
  type : ColumnType
  /-- The table it leads to. -/
  references : String
  deriving DecidableEq, Repr

/-- A table of pairs of rows. -/
structure JoinTable where
  /-- The name. -/
  name : String
  /-- The column of the owning row. -/
  owner : JoinColumn
  /-- The column of the other row. -/
  target : JoinColumn
  deriving DecidableEq, Repr

/-- A unique index. -/
structure UniqueIndex where
  /-- The name. -/
  name : String
  /-- The table. -/
  table : String
  /-- The columns in their order. -/
  columns : List String
  deriving DecidableEq, Repr

/-- A relationship of which every row of the parent needs at least one. -/
structure RequiredJoin where
  /-- The join table. -/
  joinTable : String
  /-- The column of the join table that leads to the parent. -/
  column : String
  /-- The table of the parent. -/
  parentTable : String
  deriving DecidableEq, Repr

namespace RequiredJoin

/-- The trigger on the parent's table. -/
def parentTrigger (r : RequiredJoin) : String :=
  r.parentTable ++ "_" ++ r.joinTable ++ "_" ++ r.column ++ "_required"

/-- The trigger on the join table. -/
def guardTrigger (r : RequiredJoin) : String := r.joinTable ++ "_" ++ r.column ++ "_guard"

/-- The order by join table, column and parent. -/
def before (a b : RequiredJoin) : Bool :=
  a.joinTable < b.joinTable || (a.joinTable = b.joinTable &&
    (a.column < b.column || (a.column = b.column && a.parentTable < b.parentTable)))

/-- Puts one more into an ordered list, unless it is there. -/
def insert (r : RequiredJoin) : List RequiredJoin → List RequiredJoin
  | [] => [r]
  | s :: rest =>
    if r.before s then r :: s :: rest
    else if r = s then s :: rest
    else s :: insert r rest

end RequiredJoin

/-- What is created for a schema. -/
structure Plan where
  /-- The tables of the entities, in the order of their creation. -/
  tables : List Table
  /-- The join tables by name. -/
  joinTables : List JoinTable
  /-- The unique indexes. -/
  indexes : List UniqueIndex
  /-- The required relationships, by join table and column. -/
  requiredJoins : List RequiredJoin
  deriving DecidableEq, Repr

end EntityModel.Relational
