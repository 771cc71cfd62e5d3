import EntityModel.Artifact
import EntityModel.Files.Basic
import EntityModel.Json.Decode
import EntityModel.Schema.States

/-! # Errors of a run

Why a run fails. The message of an error starts with what was attempted. -/

namespace EntityModel

/-- How a file differs from the artifact that it should hold. -/
inductive Drift where
  /-- There is no file. -/
  | missing (path : String)
  /-- The file holds something else. -/
  | differs (path : String)
  deriving DecidableEq, Repr

/-- The line that reports a drift. -/
def Drift.message : Drift → String
  | .missing path => path ++ ": missing"
  | .differs path => path ++ ": out of date"

/-- Why a run fails. -/
inductive RunError where
  /-- The configuration cannot be read. -/
  | readConfig (path : String) (cause : FileError)
  /-- The configuration is malformed, or does not have the expected shape. -/
  | parseConfig (path : String)
  /-- The schema cannot be read. -/
  | readSchema (path : String) (cause : FileError)
  /-- The schema is malformed, or does not have the expected shape. -/
  | parseSchema (path : String) (cause : Json.Problem)
  /-- The states of an entity do not belong to its enumeration. -/
  | states (path : String) (cause : StateError)
  /-- An artifact cannot be made. -/
  | generate (kind : ArtifactKind) (cause : GenerateError)
  /-- A directory cannot be made. -/
  | makeDirectory (path : String) (cause : FileError)
  /-- An artifact cannot be written. -/
  | writeArtifact (path : String) (cause : FileError)
  /-- The file of an artifact cannot be read. -/
  | readArtifact (path : String) (cause : FileError)
  /-- Files differ from their artifacts. -/
  | stale (drifts : List Drift)
  deriving DecidableEq, Repr

namespace RunError

/-- What making an artifact is called. -/
def generation : ArtifactKind → String
  | .go => "generate Go types"
  | .openapi => "generate OpenAPI"
  | .sql _ => "generate SQL"

/-- What was attempted, or the whole report if files are stale. -/
def summary : RunError → String
  | .readConfig path _ => "read config " ++ path
  | .parseConfig path => "parse config " ++ path
  | .readSchema path _ => "read schema " ++ path
  | .parseSchema path _ => "parse schema " ++ path
  | .states path _ => "validate " ++ path
  | .generate kind _ => generation kind
  | .makeDirectory path _ => "create " ++ path
  | .writeArtifact path _ => "write " ++ path
  | .readArtifact path _ => "read " ++ path
  | .stale drifts => "generated artifacts are stale:\n" ++ "\n".intercalate (drifts.map (·.message))

/-- Why the attempt failed, as far as that is known. -/
def cause? : RunError → Option String
  | .readConfig _ cause => some cause.message
  | .parseConfig _ => none
  | .readSchema _ cause => some cause.message
  | .parseSchema _ (.fault .malformed) => some "malformed JSON"
  | .parseSchema _ (.fault .truncated) => some "the text ends too early"
  | .parseSchema _ (.mismatch m) => some m.message
  | .states _ cause => some cause.message
  | .generate _ cause => some cause.chain
  | .makeDirectory _ cause => some cause.message
  | .writeArtifact _ cause => some cause.message
  | .readArtifact _ cause => some cause.message
  | .stale _ => none

/-- The message of an error. -/
def message (e : RunError) : String :=
  match e.cause? with
  | some cause => e.summary ++ ": " ++ cause
  | none => e.summary

end RunError

/-- Turns a failed file operation into a failed run. -/
def Run.orFail {m : Type → Type} [Monad m] {α : Type} (error : FileError → RunError)
    (operation : m (FileResult α)) : ExceptT RunError m α := do
  match ← operation with
  | .ok a => return a
  | .error e => throw (error e)

end EntityModel
