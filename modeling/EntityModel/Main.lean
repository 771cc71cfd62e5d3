import EntityModel.Run.Basic
import EntityModel.Settings.CommandLine

/-! # The command

The files of the machine, and the command that carries out a command line on them. -/

namespace EntityModel

/-! ## The files of the machine -/

/-- The error of a file operation of the machine. -/
def FileError.ofMachine : IO.Error → FileError
  | .noFileOrDirectory .. => .notFound
  | e => .other e.toString

/-- The result of a file operation of the machine. -/
def onMachine {α : Type} (operation : IO α) : IO (FileResult α) := do
  match ← operation.toBaseIO with
  | .ok a => return .ok a
  | .error e => return .error (.ofMachine e)

/-- Whether an error shows that the path does not lead to a file, rather than to one that cannot be
read. -/
def showsNoFile : IO.Error → Bool
  | .noFileOrDirectory .. => true
  | .inappropriateType .. => true
  | .noSuchThing .. => true
  | _ => false

/-- The operations on files, on the files of the system. -/
instance : MonadFiles IO where
  isFile path := do
    match ← (IO.FS.readBinFile path).toBaseIO with
    | .ok _ => return true
    | .error e => return !showsNoFile e
  read path := onMachine (IO.FS.readBinFile path)
  makeDirectory path := onMachine (IO.FS.createDirAll path)
  write path content := onMachine (IO.FS.writeBinFile path content)

/-! ## Messages -/

/-- What the command tells when it is asked for help. -/
def helpText : String :=
  "Compile an entity-model JSON schema into Go types, OpenAPI components and SQL DDL\n\n" ++
  "Usage: entitygen [OPTIONS]\n\n" ++
  "Options:\n" ++
  "      --schema <PATH>        Schema file [default: docs/schema/entity-model.json]\n" ++
  "      --out <PATH>           Go output file [default: pkg/domain/entitymodel/model_gen.go]\n" ++
  "      --openapi <PATH>       OpenAPI YAML output file\n" ++
  "      --sql-postgres <PATH>  Postgres DDL output file\n" ++
  "      --sql-sqlite <PATH>    SQLite DDL output file\n" ++
  "      --package <NAME>       Go package name [default: entitymodel]\n" ++
  "      --config <PATH>        Config file to use instead of the global and project config\n" ++
  "      --check                Compare generated artifacts with the files on disk\n" ++
  "  -v, --verbose              Enable debug logging\n" ++
  "  -h, --help                 Print help\n" ++
  "  -V, --version              Print version"

/-- What the command tells when it is asked for its version. -/
def versionText : String := "entitygen 0.2.0"

/-- Where the user of the machine keeps configurations. -/
def Environment.ofMachine : IO Environment := do
  return ⟨← IO.getEnv "XDG_CONFIG_HOME", ← IO.getEnv "HOME"⟩

/-! ## The command -/

/-- Carries out a command line. The exit code is 1 if the run fails, 2 if the command line does. -/
def command (args : List String) : IO UInt32 := do
  match CommandLine.parse args with
  | .error .displayHelp =>
    IO.println helpText
    return 0
  | .error .displayVersion =>
    IO.println versionText
    return 0
  | .error e =>
    IO.eprintln ("entitygen: " ++ e.message)
    return 2
  | .ok flags =>
    match ← (runFlags flags (← Environment.ofMachine) : ExceptT RunError IO Unit).run with
    | .ok () => return 0
    | .error e =>
      IO.eprintln ("entitygen: " ++ e.message)
      return 1

end EntityModel

/-- The command on the arguments that it is called with. -/
def main (args : List String) : IO UInt32 := EntityModel.command args
