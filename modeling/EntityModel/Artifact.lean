import EntityModel.Go.File
import EntityModel.OpenApi.Text
import EntityModel.Settings.Basic
import EntityModel.Sql.Script

/-! # Artifacts

The kinds of artifacts that a schema is compiled to. -/

namespace EntityModel

open Sql (Dialect)

/-- What an artifact is for. -/
inductive Category where
  /-- Typed structures for application code. -/
  | types
  /-- The contract of an interface. -/
  | contract
  /-- The definition of tables. -/
  | ddl
  deriving DecidableEq, Repr

/-- A kind of artifact. -/
inductive ArtifactKind where
  /-- A Go source file. -/
  | go
  /-- An OpenAPI document. -/
  | openapi
  /-- An SQL script. -/
  | sql (dialect : Dialect)
  deriving DecidableEq, Repr

/-- What a schema leaves open about its artifacts. -/
structure ArtifactOptions where
  /-- The name of the Go package. -/
  package : String
  /-- The title of the OpenAPI document. -/
  title : String
  /-- The origin that the artifacts name. -/
  banner : Banner
  deriving DecidableEq, Repr

namespace ArtifactKind

/-- The name of a kind. -/
def name : ArtifactKind → String
  | .go => "go"
  | .openapi => "openapi"
  | .sql d => "sql-" ++ d.name

/-- What the names of files of a kind end with, behind the dot. -/
def extension : ArtifactKind → String
  | .go => "go"
  | .openapi => "yaml"
  | .sql _ => "sql"

/-- What a kind is for. -/
def category : ArtifactKind → Category
  | .go => .types
  | .openapi => .contract
  | .sql _ => .ddl

/-- The text of an artifact of a schema. -/
def generate (options : ArtifactOptions) (s : Schema) : ArtifactKind → Except GenerateError String
  | .go => Go.generate options.package options.banner.generator s
  | .openapi => OpenApi.generate options.title options.banner s
  | .sql d => Sql.generate d options.banner s

end ArtifactKind

/-- The artifacts that have a path, in the order in which they are made. -/
def Outputs.kinds (o : Outputs) : List (ArtifactKind × String) :=
  [(ArtifactKind.go, o.go), (.openapi, o.openapi), (.sql .postgres, o.postgres),
    (.sql .sqlite, o.sqlite)].filterMap fun (kind, path) => path.map (kind, ·)

/-- Where no output is asked for, no artifact is made. -/
@[simp] theorem Outputs.kinds_unset : Outputs.unset.kinds = [] := rfl

end EntityModel
