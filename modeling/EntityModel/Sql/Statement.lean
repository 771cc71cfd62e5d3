import EntityModel.Sql.Dialect

/-! # SQL statements

The statements that create the tables, indexes and triggers of a plan, and their texts. A text has
no semicolon at its end. -/

namespace EntityModel.Sql

open Relational

/-- The functions that constraint triggers call. -/
inductive TriggerFunction where
  /-- Checks that a new or changed parent has a row in the join table. -/
  | parent
  /-- Checks that a removed or changed row of the join table was not the last one of its parent. -/
  | link
  deriving DecidableEq, Repr

/-- The name of a function. -/
def TriggerFunction.name : TriggerFunction → String
  | .parent => "enforce_required_join_parent"
  | .link => "enforce_required_join_link"

/-- A statement. -/
inductive Statement where
  /-- Creates the table of an entity with the foreign keys that stand in it. -/
  | createTable (name : String) (columns : List Column) (foreignKeys : List ForeignKey)
  /-- Adds a foreign key to a table, unless it is there. -/
  | addForeignKey (table : String) (key : ForeignKey)
  /-- Creates a join table. -/
  | createJoinTable (join : JoinTable)
  /-- Creates a unique index. -/
  | createIndex (index : UniqueIndex)
  /-- Creates a function of triggers. -/
  | createFunction (f : TriggerFunction)
  /-- Removes the trigger of a required join that calls the function. -/
  | dropTrigger (f : TriggerFunction) (join : RequiredJoin)
  /-- Creates the trigger of a required join that calls the function. -/
  | createTrigger (f : TriggerFunction) (join : RequiredJoin)
  deriving DecidableEq, Repr

/-! ## Parts of statements -/

/-- The characters of the string literal of a text. A quote is written twice. -/
def literalChars (text : List Char) : List Char :=
  '\'' :: text.flatMap (fun c => if c = '\'' then ['\'', '\''] else [c]) ++ ['\'']

/-- The string literal of a text. -/
def literal (text : String) : String := String.ofList (literalChars text.toList)

/-- Names or literals with commas between them. -/
def commaList : List String → String
  | [] => ""
  | [last] => last
  | item :: rest => item ++ ", " ++ commaList rest

/-- The clause that checks a column for the values that are allowed. A column that need not have a
value may have none. -/
def checkClause (name : String) (notNull : Bool) (values : List String) : String :=
  let isListed := name ++ " IN (" ++ commaList (values.map literal) ++ ")"
  if notNull then " CHECK (" ++ isListed ++ ")"
  else " CHECK ((" ++ isListed ++ " OR " ++ name ++ " IS NULL))"

/-- The definition of a column. -/
def columnText (d : Dialect) (c : Column) : String :=
  c.name ++ " " ++ typeName d c.type ++ (if c.notNull then " NOT NULL" else "") ++
    (if c.primaryKey then " PRIMARY KEY" else "") ++
    match c.allowed with
    | some values => checkClause c.name c.notNull values
    | none => ""

/-- The foreign key from a column to the key of a table. -/
def referenceText (column references : String) : String :=
  "FOREIGN KEY (" ++ column ++ ") REFERENCES " ++ references ++ "(id)"

/-- The definition of a column of a join table. -/
def joinColumnText (d : Dialect) (c : JoinColumn) : String :=
  c.name ++ " " ++ typeName d c.type ++ " NOT NULL"

/-- The definitions in a join table. -/
def joinTableBody (d : Dialect) (j : JoinTable) : List String :=
  [joinColumnText d j.owner, joinColumnText d j.target,
    "PRIMARY KEY (" ++ j.owner.name ++ ", " ++ j.target.name ++ ")",
    referenceText j.owner.name j.owner.references ++ " ON DELETE CASCADE",
    referenceText j.target.name j.target.references ++ " ON DELETE CASCADE"]

/-- Definitions on lines of their own, with commas between them. -/
def bodyText : List String → String
  | [] => ""
  | [last] => "    " ++ last ++ "\n"
  | item :: rest => "    " ++ item ++ ",\n" ++ bodyText rest

/-- The statement that creates a table of the definitions. -/
def createTableText (name : String) (body : List String) : String :=
  "CREATE TABLE IF NOT EXISTS " ++ name ++ " (\n" ++ bodyText body ++ ")"

/-! ## Functions of triggers -/

/-- The declarations and the body of a function. -/
def TriggerFunction.body : TriggerFunction → String
  | .parent => "DECLARE
    join_table text := TG_ARGV[0];
    parent_column text := TG_ARGV[1];
    found boolean;
BEGIN
    EXECUTE format('SELECT EXISTS (SELECT 1 FROM %I WHERE id::text = $1)', TG_TABLE_NAME)
        INTO found
        USING NEW.id::text;
    IF NOT found THEN
        RETURN NULL;
    END IF;
    EXECUTE format('SELECT EXISTS (SELECT 1 FROM %I WHERE %I::text = $1)', join_table, parent_column)
        INTO found
        USING NEW.id::text;
    IF NOT found THEN
        RAISE EXCEPTION '% % requires at least one row in %', TG_TABLE_NAME, NEW.id, join_table
            USING ERRCODE = 'check_violation';
    END IF;
    RETURN NULL;
END;
"
  | .link => "DECLARE
    parent_table text := TG_ARGV[0];
    parent_column text := TG_ARGV[1];
    parent_id text := to_jsonb(OLD) ->> parent_column;
    found boolean;
BEGIN
    IF parent_id IS NULL THEN
        RETURN NULL;
    END IF;
    EXECUTE format('SELECT EXISTS (SELECT 1 FROM %I WHERE id::text = $1)', parent_table)
        INTO found
        USING parent_id;
    IF NOT found THEN
        RETURN NULL;
    END IF;
    EXECUTE format('SELECT EXISTS (SELECT 1 FROM %I WHERE %I::text = $1)', TG_TABLE_NAME, parent_column)
        INTO found
        USING parent_id;
    IF NOT found THEN
        RAISE EXCEPTION '% % requires at least one row in %', parent_table, parent_id, TG_TABLE_NAME
            USING ERRCODE = 'check_violation';
    END IF;
    RETURN NULL;
END;
"

/-- The name of the trigger of a required join that calls the function. -/
def triggerName (f : TriggerFunction) (join : RequiredJoin) : String :=
  match f with
  | .parent => join.parentTrigger
  | .link => join.guardTrigger

/-- The table of the trigger that calls the function. -/
def triggerTable (f : TriggerFunction) (join : RequiredJoin) : String :=
  match f with
  | .parent => join.parentTable
  | .link => join.joinTable

/-- The events at which the trigger runs. -/
def triggerEvents : TriggerFunction → String
  | .parent => "INSERT OR UPDATE"
  | .link => "UPDATE OR DELETE"

/-- The table that the function is told of. -/
def triggerArgument (f : TriggerFunction) (join : RequiredJoin) : String :=
  match f with
  | .parent => join.joinTable
  | .link => join.parentTable

/-! ## Texts -/

/-- The text of a statement. -/
def Statement.text (d : Dialect) : Statement → String
  | .createTable name columns foreignKeys =>
    createTableText name <|
      columns.map (columnText d) ++
        foreignKeys.map fun key => referenceText key.column key.references
  | .addForeignKey table key =>
    "DO $$\nBEGIN\n    ALTER TABLE " ++ table ++ " ADD CONSTRAINT fk_" ++ table ++ "_" ++
      key.column ++ " " ++ referenceText key.column key.references ++
      ";\nEXCEPTION\n    WHEN duplicate_object THEN NULL;\nEND\n$$"
  | .createJoinTable join => createTableText join.name (joinTableBody d join)
  | .createIndex index =>
    "CREATE UNIQUE INDEX IF NOT EXISTS " ++ index.name ++ " ON " ++ index.table ++ " (" ++
      commaList index.columns ++ ")"
  | .createFunction f =>
    "CREATE OR REPLACE FUNCTION " ++ f.name ++ "() RETURNS trigger\nLANGUAGE plpgsql AS $$\n" ++
      f.body ++ "$$"
  | .dropTrigger f join =>
    "DROP TRIGGER IF EXISTS " ++ triggerName f join ++ " ON " ++ triggerTable f join
  | .createTrigger f join =>
    "CREATE CONSTRAINT TRIGGER " ++ triggerName f join ++ "\n    AFTER " ++ triggerEvents f ++
      " ON " ++ triggerTable f join ++
      "\n    DEFERRABLE INITIALLY DEFERRED\n    FOR EACH ROW EXECUTE FUNCTION " ++ f.name ++ "('" ++
      triggerArgument f join ++ "', '" ++ join.column ++ "')"

end EntityModel.Sql
