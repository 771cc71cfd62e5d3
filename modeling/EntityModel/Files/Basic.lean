/-! # Files

What a run needs of a file system, for any monad that offers it: looking whether there is a file,
reading one, making directories and writing a file. -/

namespace EntityModel

/-- Why a file cannot be read or written. -/
inductive FileError where
  /-- There is nothing under the path. -/
  | notFound
  /-- The path leads through a file. -/
  | notADirectory
  /-- The path leads to a directory. -/
  | isADirectory
  /-- The content of the file is no text. -/
  | invalidData
  /-- The path holds a NUL character, which no name can. -/
  | nulInPath
  /-- The path or a name in it is too long. -/
  | nameTooLong
  /-- Anything else, in the words of the file system. -/
  | other (message : String)
  deriving DecidableEq, Repr

/-- The message of an error. -/
def FileError.message : FileError → String
  | .notFound => "no such file or directory"
  | .notADirectory => "not a directory"
  | .isADirectory => "is a directory"
  | .invalidData => "the content is not valid UTF-8"
  | .nulInPath => "the path holds a NUL character"
  | .nameTooLong => "the path or a name in it is too long"
  | .other message => message

/-- The result of a file operation. -/
abbrev FileResult (α : Type) := Except FileError α

/-- A monad with a file system. Paths are relative to its working directory. -/
class MonadFiles (m : Type → Type) where
  /-- Whether the path leads to a file. -/
  isFile : String → m Bool
  /-- The content of a file. -/
  read : String → m (FileResult ByteArray)
  /-- Makes a directory and those above it, as far as they are missing. -/
  makeDirectory : String → m (FileResult Unit)
  /-- Writes a file, in place of the one that is there. -/
  write : String → ByteArray → m (FileResult Unit)

/-- The text of a content. -/
def textOf (content : ByteArray) : FileResult String :=
  match String.fromUTF8? content with
  | some text => .ok text
  | none => .error .invalidData

/-- The text of a file. -/
def readText {m : Type → Type} [Monad m] [MonadFiles m] (path : String) :
    m (FileResult String) := do
  return (← MonadFiles.read path).bind textOf

end EntityModel
