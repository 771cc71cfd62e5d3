import EntityModel.Banner

/-! # Settings

What a run reads and what it writes. A layer of settings may leave any of them open: a configuration
file is a layer, and so are the flags of a command line. What an upper layer sets hides what the
layers below set, and what no layer sets has a default. An empty path skips its output, so it hides
the paths below as every other path does. -/

namespace EntityModel

/-! ## Outputs -/

/-- Where the artifacts are written, each if there is a path for it. -/
structure Outputs where
  /-- The Go source file. -/
  go : Option String
  /-- The OpenAPI document. -/
  openapi : Option String
  /-- The script for Postgres. -/
  postgres : Option String
  /-- The script for SQLite. -/
  sqlite : Option String
  deriving DecidableEq, Repr

namespace Outputs

/-- No paths. -/
def unset : Outputs := ⟨none, none, none, none⟩

/-- The paths of the upper outputs, and of the lower ones where the upper ones have none. -/
def onTopOf (upper lower : Outputs) : Outputs where
  go := upper.go.or lower.go
  openapi := upper.openapi.or lower.openapi
  postgres := upper.postgres.or lower.postgres
  sqlite := upper.sqlite.or lower.sqlite

/-- The outputs that are written: an empty path skips its output. -/
def written (o : Outputs) : Outputs where
  go := o.go.filter (· ≠ "")
  openapi := o.openapi.filter (· ≠ "")
  postgres := o.postgres.filter (· ≠ "")
  sqlite := o.sqlite.filter (· ≠ "")

/-- Outputs on top of none are left as they are. -/
@[simp] theorem onTopOf_unset (o : Outputs) : o.onTopOf unset = o := by
  simp [onTopOf, unset]

/-- No outputs on top of others leave them as they are. -/
@[simp] theorem unset_onTopOf (o : Outputs) : unset.onTopOf o = o := by
  simp [onTopOf, unset]

/-- Outputs may be put on top of each other from either end. -/
theorem onTopOf_assoc (a b c : Outputs) : (a.onTopOf b).onTopOf c = a.onTopOf (b.onTopOf c) := by
  simp [onTopOf, Option.or_assoc]

end Outputs

/-! ## Layers -/

/-- Settings of which each may be left open. -/
structure Layer where
  /-- The path of the schema. -/
  schema : Option String
  /-- The paths of the outputs. -/
  outputs : Outputs
  /-- The name of the Go package. -/
  package : Option String
  /-- The title of the OpenAPI document. -/
  title : Option String
  deriving DecidableEq, Repr

namespace Layer

/-- The layer that sets nothing. -/
def unset : Layer := ⟨none, .unset, none, none⟩

/-- The settings of the upper layer, and of the lower one where the upper one leaves them open. -/
def onTopOf (upper lower : Layer) : Layer where
  schema := upper.schema.or lower.schema
  outputs := upper.outputs.onTopOf lower.outputs
  package := upper.package.or lower.package
  title := upper.title.or lower.title

/-- The layers on top of each other, the last one uppermost. -/
def stack (layers : List Layer) : Layer :=
  layers.foldl (fun lower upper => upper.onTopOf lower) .unset

/-- A layer on top of an empty one is left as it is. -/
@[simp] theorem onTopOf_unset (l : Layer) : l.onTopOf .unset = l := by
  simp [onTopOf, unset]

/-- An empty layer on top of another one leaves it as it is. -/
@[simp] theorem unset_onTopOf (l : Layer) : Layer.unset.onTopOf l = l := by
  simp [onTopOf, unset]

/-- Layers may be put on top of each other from either end. -/
theorem onTopOf_assoc (a b c : Layer) : (a.onTopOf b).onTopOf c = a.onTopOf (b.onTopOf c) := by
  simp [onTopOf, Outputs.onTopOf_assoc, Option.or_assoc]

/-- A stack of no layers is the empty layer. -/
@[simp] theorem stack_nil : stack [] = .unset := rfl

end Layer

/-! ## Flags -/

/-- The flags of a command line. -/
structure Flags where
  /-- The path of the schema. -/
  schema : Option String
  /-- The paths of the outputs. -/
  outputs : Outputs
  /-- The name of the Go package. -/
  package : Option String
  /-- The only configuration file to read. -/
  config : Option String
  /-- Whether the artifacts are compared with the files rather than written. -/
  check : Bool
  /-- Whether more is told about the run. -/
  verbose : Bool
  deriving DecidableEq, Repr

namespace Flags

/-- No flags. -/
def unset : Flags := ⟨none, .unset, none, none, false, false⟩

/-- The settings that the flags give. There is no flag for the title. -/
def layer (f : Flags) : Layer := ⟨f.schema, f.outputs, f.package, none⟩

/-- Arguments without a flag make the empty layer. -/
@[simp] theorem layer_unset : unset.layer = .unset := rfl

end Flags

/-! ## Settings -/

/-- Everything that a run needs to know. -/
structure Settings where
  /-- The path of the schema. -/
  schema : String
  /-- The paths of the outputs that are written. -/
  outputs : Outputs
  /-- The name of the Go package. -/
  package : String
  /-- The title of the OpenAPI document. -/
  title : String
  deriving DecidableEq, Repr

namespace Settings

/-- Where the Go source file is written if nothing else is said. -/
def defaultGo : String := "pkg/domain/entitymodel/model_gen.go"

/-- The name of the Go package if nothing else is said. -/
def defaultPackage : String := "entitymodel"

/-- The title of the OpenAPI document if nothing else is said. -/
def defaultTitle : String := "Entity Model"

/-- The settings of a layer, with the defaults for what it leaves open. Of the outputs only the Go
source file is written by default. -/
def ofLayer (l : Layer) : Settings where
  schema := l.schema.getD Banner.defaultSource
  outputs := Outputs.written { l.outputs with go := some (l.outputs.go.getD defaultGo) }
  package := l.package.getD defaultPackage
  title := l.title.getD defaultTitle

/-- The settings of a run: the flags on top of the configuration. -/
def resolve (flags : Flags) (config : Layer) : Settings := ofLayer (flags.layer.onTopOf config)

end Settings

end EntityModel
