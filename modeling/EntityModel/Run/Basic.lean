import EntityModel.Run.Config
import EntityModel.Schema.Json

/-! # Runs

A run loads the schema and makes all artifacts before it touches a file. Then it writes them one
after the other or, when it only checks, compares them with the files that are there. -/

namespace EntityModel

/-- A text and the path that it belongs to. -/
structure Artifact where
  /-- The path of the file. -/
  path : String
  /-- The content of the file. -/
  text : String
  deriving DecidableEq, Repr

namespace Settings

/-- What the settings say about the artifacts. They name the schema as their source. -/
def artifactOptions (s : Settings) : ArtifactOptions :=
  ⟨s.package, s.title, ⟨Banner.defaultGenerator, some s.schema⟩⟩

/-- Makes the artifacts of a schema. -/
def artifacts (s : Settings) (schema : Schema) : Except RunError (List Artifact) :=
  s.outputs.kinds.mapM fun (kind, path) =>
    match kind.generate s.artifactOptions schema with
    | .ok text => .ok ⟨path, text⟩
    | .error e => .error (.generate kind e)

end Settings

namespace Run

variable {m : Type → Type} [Monad m] [MonadFiles m]

/-- Loads the schema and validates its states. -/
def loadSchema (path : String) : ExceptT RunError m Schema := do
  let text ← orFail (.readSchema path) (readText path)
  match Schema.parse text with
  | .error e => throw (.parseSchema path e)
  | .ok schema =>
    match schema.validateStates with
    | .error e => throw (.states path e)
    | .ok () => return schema

/-- Writes an artifact, and makes the directory for it. -/
def writeArtifact (a : Artifact) : ExceptT RunError m Unit := do
  match Path.parent? a.path with
  | none => pure ()
  | some parent =>
    -- A name alone has the empty parent, the working directory.
    if parent ≠ "" then orFail (.makeDirectory parent) (MonadFiles.makeDirectory parent)
  orFail (.writeArtifact a.path) (MonadFiles.write a.path a.text.toUTF8)

/-- How the file of an artifact differs from it, if it does. -/
def drift? (a : Artifact) : ExceptT RunError m (Option Drift) := do
  match ← (MonadFiles.read a.path : m _) with
  | .ok content =>
    return if String.fromUTF8? content = some a.text then none else some (.differs a.path)
  | .error .notFound => return some (.missing a.path)
  | .error e => throw (.readArtifact a.path e)

/-- Writes the artifacts. Those written before a failure stay. -/
def write (artifacts : List Artifact) : ExceptT RunError m Unit := artifacts.forM writeArtifact

/-- Compares the artifacts with their files. -/
def check (artifacts : List Artifact) : ExceptT RunError m Unit := do
  let drifts ← artifacts.filterMapM drift?
  if drifts ≠ [] then throw (.stale drifts)

end Run

/-- Carries out the settings: writes the artifacts or only checks them. -/
def run {m : Type → Type} [Monad m] [MonadFiles m] (settings : Settings) (checkOnly : Bool) :
    ExceptT RunError m Unit := do
  let schema ← Run.loadSchema settings.schema
  let artifacts ← settings.artifacts schema
  if checkOnly then Run.check artifacts else Run.write artifacts

/-- Carries out a command line. -/
def runFlags {m : Type → Type} [Monad m] [MonadFiles m] (flags : Flags) (env : Environment) :
    ExceptT RunError m Unit := do
  let config ← Layer.loadFor flags env
  run (.resolve flags config) flags.check

end EntityModel
