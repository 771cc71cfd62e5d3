import EntityModel.Go.Layout
import EntityModel.Go.Types

/-! # Go files

The Go file of a schema: a string type with constants for every enumeration, and a struct for every
definition that has a type of its own and for every entity. The declarations are made first, with
every name checked, and then written and laid out. -/

namespace EntityModel.Go

/-! ## Declarations -/

/-- A constant of an enumeration. -/
structure Constant where
  /-- The name. -/
  name : String
  /-- The value. -/
  value : String
  deriving DecidableEq, Repr

/-- A field of a struct. -/
structure Field where
  /-- The name. -/
  name : String
  /-- The property that the field holds. -/
  property : String
  /-- The type. -/
  type : GoType
  /-- Whether the field has to be there. -/
  required : Bool
  deriving DecidableEq, Repr

/-- What a struct is made of. -/
inductive Origin where
  /-- A definition. -/
  | definitions
  /-- An entity. -/
  | entities
  deriving DecidableEq, Repr

/-- The word for an origin. -/
def Origin.word : Origin → String
  | .definitions => "definitions"
  | .entities => "entities"

/-- A declaration of a file. -/
inductive Declaration where
  /-- The type and the constants of an enumeration. -/
  | enumeration (name source : String) (constants : List Constant)
  /-- A struct. -/
  | struct (name : String) (origin : Origin) (fields : List Field)
  deriving DecidableEq, Repr

/-- A file. -/
structure File where
  /-- The package. -/
  package : String
  /-- The tool that made it. -/
  generator : String
  /-- The declarations in their order. -/
  declarations : List Declaration
  deriving DecidableEq, Repr

/-- The names that a declaration declares in its package. -/
def Declaration.names : Declaration → List String
  | .enumeration name _ constants => name :: constants.map (·.name)
  | .struct name _ _ => [name]

/-- The fields of a declaration. -/
def Declaration.fields : Declaration → List Field
  | .enumeration .. => []
  | .struct _ _ fields => fields

/-- Whether the file mentions points in time. -/
def File.usesTime (f : File) : Bool :=
  f.declarations.any fun d => d.fields.any (·.type.usesTime)

/-! ## Making declarations -/

/-- The name, if it can be declared. -/
def declarable (name : String) : Except GenerateError String :=
  match identifier name with
  | .ok name => .ok name
  | .error e => .error (.layout e)

/-- The constant of a value. A value without letters or digits has none. -/
def constant (typeName value : String) : Except SourceError Constant :=
  let suffix := Naming.camel value
  if suffix.isEmpty then .error (.notIdentifier value)
  else do
    let name ← identifier (typeName ++ suffix)
    return ⟨name, value⟩

/-- The declaration of an enumeration, or why it cannot be made. -/
def enumeration (name : String) (e : Enumeration) : Except SourceError Declaration := do
  let typeName ← identifier (Naming.camel name)
  let constants ← e.values.mapM (constant typeName)
  return .enumeration typeName name constants

/-- The declarations of enumerations. -/
def enumerations (enums : List (String × Enumeration)) :
    Except GenerateError (List Declaration) :=
  enums.mapM fun (name, e) =>
    match enumeration name e with
    | .ok d => .ok d
    | .error cause => .error (.enumeration name cause)

/-- The type of a property and whether the property is required, with the property's name. -/
def typedProperty (v : Vocabulary) (isRequired : String → Bool)
    (wrap : String → TypeError → GenerateError) (name : String) (p : Property) :
    Except GenerateError (String × GoType × Bool) :=
  match fieldType v p (isRequired name) with
  | .ok type => .ok (name, type, isRequired name)
  | .error e => .error (wrap name e)

/-- The field of a typed property. -/
def field : String × GoType × Bool → Except GenerateError Field
  | (property, type, required) => do
    let name ← declarable (Naming.camel property)
    return ⟨name, property, type, required⟩

/-- The fields of properties. All types are found before a name is checked. -/
def fields (v : Vocabulary) (isRequired : String → Bool)
    (wrap : String → TypeError → GenerateError) (properties : List (String × Property)) :
    Except GenerateError (List Field) := do
  let typed ← properties.mapM fun (name, p) => typedProperty v isRequired wrap name p
  typed.mapM field

/-- The struct of a definition. -/
def definitionStruct (v : Vocabulary) (name : String) (p : Property) :
    Except GenerateError Declaration := do
  let typeName ← declarable (Naming.camel name)
  let fields ← fields v p.isRequired (.definitionProperty name) p.properties
  return .struct typeName .definitions fields

/-- The structs of the definitions that have types of their own. -/
def definitionStructs (v : Vocabulary) (definitions : List (String × Property)) :
    Except GenerateError (List Declaration) :=
  (definitions.filter fun d => isStructDefinition d.2).mapM fun (name, p) =>
    definitionStruct v name p

/-- The struct of an entity. -/
def entityStruct (v : Vocabulary) (name : String) (e : Entity) :
    Except GenerateError Declaration := do
  let typeName ← declarable name
  let fields ← fields v e.isRequired (.property name) e.properties.entries
  return .struct typeName .entities fields

/-- The file of a schema. -/
def file (package generator : String) (s : Schema) : Except GenerateError File := do
  let package ← declarable package
  let enums ← enumerations s.enums.entries
  let definitions ← definitionStructs s.vocabulary s.definitions.entries
  let entities ← s.entities.entries.mapM fun (name, e) => entityStruct s.vocabulary name e
  return ⟨package, generator, enums ++ definitions ++ entities⟩

/-! ## Writing -/

/-- A cell separator as a text. -/
def cellText : String := String.singleton cell

/-- The line of a constant. -/
def Constant.line (typeName : String) (c : Constant) : String :=
  "\t" ++ c.name ++ cellText ++ typeName ++ cellText ++ "= " ++ quote c.value ++ "\n"

/-- The tag of a field. -/
def Field.tag (f : Field) : String :=
  "`json:\"" ++ f.property ++ (if f.required then "" else ",omitempty") ++ "\"`"

/-- The line of a field. -/
def Field.line (f : Field) : String :=
  "\t" ++ f.name ++ cellText ++ f.type.text ++ cellText ++ f.tag ++ "\n"

/-- The text of a declaration. -/
def Declaration.text : Declaration → String
  | .enumeration name source constants =>
    "// " ++ name ++ " enumerates values for " ++ source ++ ".\ntype " ++ name ++ " string\n\n" ++
      if constants.isEmpty then ""
      else "const (\n" ++ String.join (constants.map (·.line name)) ++ ")\n\n"
  | .struct name origin fields =>
    "// " ++ name ++ " is generated from the entity model " ++ origin.word ++ ".\ntype " ++ name ++
      " struct \x7b\n" ++ String.join (fields.map (·.line)) ++ "\x7d\n\n"

/-- The text of a file before it is laid out. -/
def File.text (f : File) : String :=
  "// Code generated by " ++ f.generator ++ ". DO NOT EDIT.\npackage " ++ f.package ++ "\n\n" ++
    (if f.usesTime then "import \"time\"\n\n" else "") ++
    String.join (f.declarations.map (·.text))

/-- The source code of a schema's types. -/
def generate (package generator : String) (s : Schema) : Except GenerateError String := do
  let file ← file package generator s
  match layout file.text with
  | .ok source => return source
  | .error e => .error (.layout e)

end EntityModel.Go
