import EntityModel.Files.Path
import EntityModel.Run.Error
import EntityModel.Settings.Toml

/-! # Loading the configuration

There is a configuration of the user and one of the project on top of it, each if there is a file
for it. A file that the flags name takes the place of both and has to be there. -/

namespace EntityModel

/-- Where the user keeps configurations. -/
structure Environment where
  /-- The directory for configurations, if one is set. -/
  configHome : Option String
  /-- The home directory, if it is known. -/
  home : Option String
  deriving DecidableEq, Repr

namespace Environment

/-- The path of the user's configuration. -/
def userConfig? (e : Environment) : Option String :=
  let directory := e.configHome.or (e.home.map (Path.join · ".config"))
  directory.map fun d => Path.join (Path.join d "entitygen") "config.toml"

end Environment

namespace Layer

/-- The path of the project's configuration. -/
def projectConfig : String := ".entitygen/config.toml"

variable {m : Type → Type} [Monad m] [MonadFiles m]

/-- Reads a configuration from a file. -/
def load (path : String) : ExceptT RunError m Layer := do
  let text ← Run.orFail (.readConfig path) (readText path)
  match parse? text with
  | some layer => return layer
  | none => throw (.parseConfig path)

/-- Reads a configuration from a file, if there is a file. -/
def loadIfThere (path : String) : ExceptT RunError m Layer := do
  if ← (MonadFiles.isFile path : m Bool) then load path else return .unset

/-- Reads the configuration for the flags. -/
def loadFor (flags : Flags) (env : Environment) : ExceptT RunError m Layer := do
  match flags.config with
  | some path => load path
  | none =>
    let layers ← (env.userConfig?.toList ++ [projectConfig]).mapM loadIfThere
    return stack layers

end Layer

end EntityModel
