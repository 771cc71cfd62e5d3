import EntityModel.Json.Decode
import EntityModel.Settings.Basic

/-! # Configurations as JSON

A configuration is a record with the path of the schema and a table each for the outputs, for Go and
for OpenAPI. Other names are refused. A path or a name that is null is left open, a table is not. -/

namespace EntityModel

open Json

/-- The shape of the outputs in a configuration. -/
def Outputs.record : Record Outputs where
  name := "OutputsConfig"
  blank := .unset
  fields := [
    .withDefault "go" (.optional .path) fun v o => { o with go := v },
    .withDefault "openapi" (.optional .path) fun v o => { o with openapi := v },
    .withDefault "sql_postgres" (.optional .path) fun v o => { o with postgres := v },
    .withDefault "sql_sqlite" (.optional .path) fun v o => { o with sqlite := v }]
  closed := true

namespace Layer

/-- The shape of the table for Go in a configuration, of which only the package is known. -/
def goRecord : Record (Option String) where
  name := "GoConfig"
  blank := none
  fields := [.withDefault "package" (.optional .string) fun v _ => v]
  closed := true

/-- The shape of the table for OpenAPI in a configuration, of which only the title is known. -/
def openapiRecord : Record (Option String) where
  name := "OpenApiConfig"
  blank := none
  fields := [.withDefault "title" (.optional .string) fun v _ => v]
  closed := true

/-- The shape of a configuration. -/
def record : Record Layer where
  name := "EntitygenConfig"
  blank := .unset
  fields := [
    .withDefault "schema" (.optional .path) fun v l => { l with schema := v },
    .withDefault "outputs" Outputs.record.decode fun v l => { l with outputs := v },
    .withDefault "go" goRecord.decode fun v l => { l with package := v },
    .withDefault "openapi" openapiRecord.decode fun v l => { l with title := v }]
  closed := true

/-- Reads a configuration from a value. -/
def ofValue (value : Value) : Except Problem Layer := decodeValue record.decode value

end Layer

end EntityModel
