import EntityModel.Settings.Basic
import EntityModel.Toml.Reader

/-! # Configurations as TOML

A configuration is a table with the path of the schema and a table each for the outputs, for Go and
for OpenAPI. Other names are refused. A table inside may also be written as the array of its strings
in their order, of which what follows the last one counts for nothing. -/

namespace EntityModel

open Toml (Value)

namespace Layer

/-- The values of a table that has no other names, or of an array that lists them in order. -/
def fields? (names : List String) : Value → Option (List (String × Value))
  | .table _ entries => if entries.all (names.contains ·.1) then some entries else none
  | .array _ items => some (names.zip items)
  | _ => none

/-- The strings under the names. -/
def texts? (names : List String) (v : Value) : Option (List (String × String)) := do
  (← fields? names v).mapM fun (name, value) => do return (name, ← value.text?)

/-- The outputs of a configuration. -/
def outputsOf? (v : Value) : Option Outputs := do
  let texts ← texts? ["go", "openapi", "sql_postgres", "sql_sqlite"] v
  return ⟨Entries.find? "go" texts, Entries.find? "openapi" texts,
    Entries.find? "sql_postgres" texts, Entries.find? "sql_sqlite" texts⟩

/-- The only string of a table of a configuration. -/
def onlyText? (name : String) (v : Value) : Option (Option String) := do
  return Entries.find? name (← texts? [name] v)

/-- The configuration in a table. -/
def ofToml? (v : Value) : Option Layer := do
  let fields ← fields? ["schema", "outputs", "go", "openapi"] v
  let schema ← (Entries.find? "schema" fields).mapM (·.text?)
  let outputs ← (Entries.find? "outputs" fields).mapM outputsOf?
  let package ← (Entries.find? "go" fields).mapM (onlyText? "package")
  let title ← (Entries.find? "openapi" fields).mapM (onlyText? "title")
  return ⟨schema, outputs.getD .unset, package.join, title.join⟩

/-- Reads a configuration from a text. -/
def parse? (text : String) : Option Layer := (Toml.parse? text).bind ofToml?

end Layer

end EntityModel
