import EntityModel.GenerateError
import EntityModel.Naming
import EntityModel.Types.Resolve

/-! # OpenAPI documents

The components of a schema: one for every enumeration and definition, and three for every entity,
for reading, creating and updating it. Fields that the server manages are read-only when an entity
is read, and they are no part of what is sent to create or update it. -/

namespace EntityModel.OpenApi

open Json

/-- The version of the format. -/
def version : String := "3.1.0"

/-- What references to components start with. -/
def componentsPath : String := "#/components/schemas/"

/-- The fields that the server manages. -/
def serverManaged : List String := ["id", "created_at", "updated_at"]

/-! ## Components of properties -/

/-- The reference to the component of a name. -/
def referenceTo (name : String) : Value :=
  .object [("$ref", .string (componentsPath ++ Naming.camel name))]

/-- The component of a primitive type. -/
def primitive (p : Primitive) : Value :=
  .object <|
    (match p.format with
      | some format => [("format", .string format)]
      | none => []) ++
    [("type", .string p.kind.name)]

/-- The component of an array. -/
def arrayOf (items : Value) : Value := .object [("items", items), ("type", .string "array")]

/-- The component of an object. Only an object with members says which are required. -/
def objectOf (members : List (String × Value)) (required : List String) (additional : Option Bool) :
    Value :=
  .object <|
    (match additional with
      | some b => [("additionalProperties", .bool b)]
      | none => []) ++
    (if members.isEmpty then []
      else ("properties", .object members) ::
        if required.isEmpty then [] else [("required", .strings required)]) ++
    [("type", .string "object")]

/-- The component of a reference. -/
def reference (v : Vocabulary) (target : String) : Except ResolveError Value :=
  match v.resolveReference target with
  | .ok (.definition name) => .ok (referenceTo name)
  | .ok (.enumeration name) => .ok (referenceTo name)
  | .ok _ => .ok (.object [])
  | .error e => .error e

mutual

/-- The component of a property. References are kept and not followed. -/
def component (v : Vocabulary) : Property → Except ResolveError Value
  | ⟨type, format, target, _, items, properties, required, additional⟩ =>
    match target with
    | some target => reference v target
    | none =>
      match type with
      | none =>
        if properties.isEmpty then .ok (.object [])
        else do
          let members ← members v properties
          return objectOf members required (additional.bind Value.flag?)
      | some name =>
        match PrimitiveKind.ofName? name with
        | some kind => .ok (primitive ⟨kind, format⟩)
        | none =>
          if name = "array" then
            match items with
            | some p => arrayOf <$> component v p
            | none => .ok (arrayOf (.object []))
          else if name = "object" then do
            let members ← members v properties
            return objectOf members required (additional.bind Value.flag?)
          else .ok (.object [])

/-- The components of named properties. -/
def members (v : Vocabulary) :
    List (String × Property) → Except ResolveError (List (String × Value))
  | [] => .ok []
  | (name, p) :: rest => do
    let value ← component v p
    let values ← members v rest
    return (name, value) :: values

end

/-! ## Components of entities -/

/-- The component of an enumeration. -/
def enumComponent (e : Enumeration) : Value :=
  .object [("enum", .strings e.values), ("type", .string "string")]

/-- The component marked as read-only. -/
def markReadOnly : Value → Value
  | .object ms => .object (Entries.insert "readOnly" (.bool true) ms)
  | value => value

/-- The three components of an entity. -/
structure EntityComponents where
  /-- What is read. -/
  read : Value
  /-- What is sent to create an entity. -/
  create : Value
  /-- What is sent to update an entity. -/
  update : Value

/-- The component of an object with exactly the members, and the required ones if there are any. -/
def entityObject (members : List (String × Value)) (required : List String) : Value :=
  .object <| [("properties", .object members)] ++
    (if required.isEmpty then [] else [("required", .strings required)]) ++
    [("type", .string "object")]

/-- The required fields that are sent to create an entity, in order. -/
def createRequired (required : List String) : List String :=
  (required.filter fun field => !serverManaged.any (Text.equalIgnoringCase field ·)).mergeSort

/-- The components of the properties of an entity. -/
def entityMembers (v : Vocabulary) (entity : String) :
    List (String × Property) → Except GenerateError (List (String × Value))
  | [] => .ok []
  | (name, p) :: rest =>
    match component v p with
    | .error e => .error (.property entity name (.unresolved e))
    | .ok value => do
      let values ← entityMembers v entity rest
      return (name, value) :: values

/-- The components of an entity. -/
def entityComponents (v : Vocabulary) (name : String) (e : Entity) :
    Except GenerateError EntityComponents := do
  let members ← entityMembers v name e.properties.entries
  let isManaged (field : String × Value) : Bool := serverManaged.contains field.1
  let readMembers := members.map fun field =>
    if isManaged field then (field.1, markReadOnly field.2) else field
  let sentMembers := members.filter (!isManaged ·)
  return {
    read := entityObject readMembers e.required
    create := entityObject sentMembers (createRequired e.required)
    update := entityObject sentMembers [] }

/-! ## Documents -/

/-- The components of enumerations under their names. -/
def enumComponents (enums : List (String × Enumeration)) : List (String × Value) :=
  enums.map fun (name, e) => (Naming.camel name, enumComponent e)

/-- The components of definitions under their names. -/
def definitionComponents (v : Vocabulary) (definitions : List (String × Property)) :
    Except GenerateError (List (String × Value)) :=
  definitions.mapM fun (name, p) =>
    match component v p with
    | .ok value => .ok (Naming.camel name, value)
    | .error e => .error (.definition name e)

/-- The components of entities under their names. -/
def allEntityComponents (v : Vocabulary) (entities : List (String × Entity)) :
    Except GenerateError (List (String × Value)) := do
  let components ← entities.mapM fun (name, e) => do
    let c ← entityComponents v name e
    return [(name, c.read), (name ++ "Create", c.create), (name ++ "Update", c.update)]
  return components.flatten

/-- The components of a schema. Of several that have one name the last is kept. -/
def components (s : Schema) : Except GenerateError (NameMap Value) := do
  let definitions ← definitionComponents s.vocabulary s.definitions.entries
  let entities ← allEntityComponents s.vocabulary s.entities.entries
  return NameMap.ofList (enumComponents s.enums.entries ++ definitions ++ entities)

/-- The document of a schema. -/
def document (title : String) (s : Schema) : Except GenerateError Value := do
  let components ← components s
  return .object [
    ("components", .object [("schemas", .object components.entries)]),
    ("info", .object [("title", .string title), ("version", .string s.version)]),
    ("openapi", .string version)]

end EntityModel.OpenApi
