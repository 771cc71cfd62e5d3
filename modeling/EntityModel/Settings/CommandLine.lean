import EntityModel.Settings.Basic

/-! # Command lines

A command line holds flags only. A flag with a value takes it from behind an equals sign or from the
next argument, unless that looks like a flag itself; a switch stands alone, and switches of one
letter may share a dash. No flag is given twice. A flag that waits for its value is settled as soon
as the next known flag is met, so of two mistakes that of the earlier flag is usually reported; an
argument that is no flag is reported before it. -/

namespace EntityModel

/-- Why a command line is not carried out. -/
inductive UsageError where
  /-- An argument is neither a flag nor the value of one. -/
  | unknownArgument
  /-- A flag lacks its value, or a path is empty. -/
  | invalidValue
  /-- A flag is given twice. -/
  | argumentConflict
  /-- A switch has a value. -/
  | tooManyValues
  /-- The command line asks for help instead. -/
  | displayHelp
  /-- The command line asks for the version instead. -/
  | displayVersion
  deriving DecidableEq, Repr

/-- The message of an error, which is empty if the command line asks for something else. -/
def UsageError.message : UsageError → String
  | .unknownArgument => "an argument is neither a flag nor the value of one"
  | .invalidValue => "a flag lacks its value, or a path is empty"
  | .argumentConflict => "a flag is given twice"
  | .tooManyValues => "a switch takes no value"
  | .displayHelp => ""
  | .displayVersion => ""

namespace CommandLine

/-! ## Flags -/

/-- A flag that takes a value. -/
inductive ValueFlag where
  /-- The path of the schema. -/
  | schema
  /-- The path of the Go source file. -/
  | out
  /-- The path of the OpenAPI document. -/
  | openapi
  /-- The path of the script for Postgres. -/
  | sqlPostgres
  /-- The path of the script for SQLite. -/
  | sqlSqlite
  /-- The name of the Go package. -/
  | package
  /-- The path of the configuration. -/
  | config
  deriving DecidableEq, Repr

/-- A flag that takes no value. -/
inductive Switch where
  /-- Compares the artifacts with the files. -/
  | check
  /-- Tells more about the run. -/
  | verbose
  /-- Asks for help. -/
  | help
  /-- Asks for the version. -/
  | version
  deriving DecidableEq, Repr

/-- The flags with a value and what they are called behind two dashes. -/
def ValueFlag.names : List (String × ValueFlag) :=
  [("schema", .schema), ("out", .out), ("openapi", .openapi), ("sql-postgres", .sqlPostgres),
    ("sql-sqlite", .sqlSqlite), ("package", .package), ("config", .config)]

/-- The switches and what they are called behind two dashes. -/
def Switch.names : List (String × Switch) :=
  [("check", .check), ("verbose", .verbose), ("help", .help), ("version", .version)]

/-- The switches and what they are called behind one dash. -/
def Switch.letters : List (Char × Switch) := [('v', .verbose), ('h', .help), ('V', .version)]

/-- The value of a flag. -/
def ValueFlag.get? (flags : Flags) : ValueFlag → Option String
  | .schema => flags.schema
  | .out => flags.outputs.go
  | .openapi => flags.outputs.openapi
  | .sqlPostgres => flags.outputs.postgres
  | .sqlSqlite => flags.outputs.sqlite
  | .package => flags.package
  | .config => flags.config

/-- Puts the value of a flag. -/
def ValueFlag.put (flags : Flags) (value : String) : ValueFlag → Flags
  | .schema => { flags with schema := some value }
  | .out => { flags with outputs := { flags.outputs with go := some value } }
  | .openapi => { flags with outputs := { flags.outputs with openapi := some value } }
  | .sqlPostgres => { flags with outputs := { flags.outputs with postgres := some value } }
  | .sqlSqlite => { flags with outputs := { flags.outputs with sqlite := some value } }
  | .package => { flags with package := some value }
  | .config => { flags with config := some value }

/-- The value that was put under a flag is the one that is got. -/
@[simp] theorem ValueFlag.get?_put (flags : Flags) (value : String) (f : ValueFlag) :
    f.get? (f.put flags value) = some value := by
  cases f <;> rfl

/-- Sets a flag. Its value may be empty only if it is no path. -/
def ValueFlag.set (f : ValueFlag) (value : String) (flags : Flags) : Except UsageError Flags :=
  if (f.get? flags).isSome then .error .argumentConflict
  else if value = "" ∧ f ≠ .package then .error .invalidValue
  else .ok (f.put flags value)

/-- Turns a switch on. -/
def Switch.set (flags : Flags) : Switch → Except UsageError Flags
  | .check => if flags.check then .error .argumentConflict else .ok { flags with check := true }
  | .verbose =>
    if flags.verbose then .error .argumentConflict else .ok { flags with verbose := true }
  | .help => .error .displayHelp
  | .version => .error .displayVersion

/-! ## Arguments -/

/-- An argument as it looks on its own. -/
inductive Argument where
  /-- Two dashes alone: no flags follow. -/
  | endOfFlags
  /-- A name behind two dashes, and what stands behind an equals sign. -/
  | long (name : String) (value : Option String)
  /-- Letters behind one dash. -/
  | short (letters : List Char)
  /-- Anything else. -/
  | plain (text : String)
  deriving DecidableEq, Repr

/-- How an argument looks. A dash alone is no flag. -/
def Argument.ofText (text : String) : Argument :=
  match text.toList with
  | ['-', '-'] => .endOfFlags
  | '-' :: '-' :: rest =>
    let name := rest.takeWhile (· ≠ '=')
    .long (String.ofList name) <|
      match rest.drop name.length with
      | _ :: value => some (String.ofList value)
      | [] => none
  | '-' :: c :: rest => .short (c :: rest)
  | _ => .plain text

/-- What has been read of a command line. -/
structure Progress where
  /-- The flags that are settled. -/
  flags : Flags
  /-- The flag that takes its value from the arguments, and that value once it is there. -/
  pending : Option (ValueFlag × Option String)
  deriving DecidableEq, Repr

namespace Progress

/-- Nothing has been read. -/
def start : Progress := ⟨.unset, none⟩

/-- The flags, if the last one has its value. -/
def settle (p : Progress) : Except UsageError Flags :=
  match p.pending with
  | none => .ok p.flags
  | some (_, none) => .error .invalidValue
  | some (f, some value) => f.set value p.flags

/-- Takes in a flag behind two dashes. -/
def takeLong (p : Progress) (name : String) (value : Option String) :
    Except UsageError Progress :=
  match ValueFlag.names.lookup name with
  | some f => do
    -- The flag before has to be settled first, so that its mistake is the one reported.
    let flags ← p.settle
    match value with
    | some value => return ⟨← f.set value flags, none⟩
    | none => return ⟨flags, some (f, none)⟩
  | none =>
    match Switch.names.lookup name with
    | some s =>
      if value.isSome then .error .tooManyValues
      else do return ⟨← s.set (← p.settle), none⟩
    | none => .error .unknownArgument

/-- Takes in letters behind one dash. -/
def takeShort : Progress → List Char → Except UsageError Progress
  | p, [] => .ok p
  | p, c :: rest =>
    match Switch.letters.lookup c with
    | some s => do takeShort ⟨← s.set (← p.settle), none⟩ rest
    | none => .error .unknownArgument

/-- Takes in an argument that is no flag, which has to be the value of the last one. -/
def takePlain (p : Progress) (text : String) : Except UsageError Progress :=
  match p.pending with
  | some (f, none) => .ok ⟨p.flags, some (f, some text)⟩
  | _ => .error .unknownArgument

end Progress

/-- Reads the rest of a command line. -/
def parseFrom (p : Progress) : List String → Except UsageError Flags
  | [] => p.settle
  | arg :: rest =>
    match Argument.ofText arg with
    -- All arguments behind the end of the flags are values, and there is no flag left to take one.
    | .endOfFlags => if rest = [] then p.settle else .error .unknownArgument
    | .long name value => do parseFrom (← p.takeLong name value) rest
    | .short letters => do parseFrom (← p.takeShort letters) rest
    | .plain text => do parseFrom (← p.takePlain text) rest

/-- Reads the arguments of a command line. -/
def parse (args : List String) : Except UsageError Flags := parseFrom .start args

/-- No arguments set no flag. -/
@[simp] theorem parse_nil : parse [] = .ok .unset := rfl

end CommandLine

end EntityModel
