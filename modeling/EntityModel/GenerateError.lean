import EntityModel.Go.Source
import EntityModel.Types.Basic

/-! # Errors of generation

Why no artifact can be made of a schema. An error that has a cause of its own names it, and `chain`
gives the message followed by the message of the cause. One cause is no error of the program: where
a type has no end, the program does not come back, and reports nothing. -/

namespace EntityModel

/-- Why no artifact can be made of a schema. -/
inductive GenerateError where
  /-- A value of the enumeration cannot be declared. -/
  | enumeration (name : String) (cause : Go.SourceError)
  /-- The definition has no meaning. -/
  | definition (name : String) (cause : ResolveError)
  /-- A member of the definition has no type. -/
  | definitionProperty (definition property : String) (cause : TypeError)
  /-- A property of the entity has no type. -/
  | property (entity property : String) (cause : TypeError)
  /-- The entity has no property for its identifier. -/
  | missingId (entity : String)
  /-- The identifier of the entity is neither text nor a universally unique identifier. -/
  | invalidId (entity : String)
  /-- A relationship to many asks for a foreign key. -/
  | foreignKeyOnArray (entity field : String)
  /-- A relationship leads to no entity. -/
  | unknownTarget (entity field target : String)
  /-- No property holds the relationship. -/
  | relationshipWithoutProperty (entity field : String)
  /-- A field of a natural key is no column. -/
  | unknownNaturalKeyField (entity field : String)
  /-- Two entities have the same table. -/
  | duplicateTable (first second table : String)
  /-- The generated source code is refused. -/
  | layout (cause : Go.SourceError)
  deriving DecidableEq, Repr

namespace GenerateError

/-- The error is one that a program reports. -/
def IsReported : GenerateError → Prop
  | .definitionProperty _ _ cause | .property _ _ cause => cause.IsReported
  | _ => True

open Text (quoted)

/-- The message of the cause, if the error has one. -/
def cause? : GenerateError → Option String
  | .enumeration _ cause => some cause.message
  | .definition _ cause => some cause.message
  | .definitionProperty _ _ cause => some cause.message
  | .property _ _ cause => some cause.message
  | .layout cause => some cause.message
  | _ => none

/-- The message of an error. It names the cause, too. -/
def message : GenerateError → String
  | .enumeration name cause => "enum " ++ quoted name ++ ": " ++ cause.message
  | .definition name cause => "definition " ++ quoted name ++ ": " ++ cause.message
  | .definitionProperty owner member cause =>
    "definition " ++ quoted owner ++ ": property " ++ quoted member ++ ": " ++ cause.message
  | .property entity field cause =>
    "entity " ++ quoted entity ++ ": property " ++ quoted field ++ ": " ++ cause.message
  | .missingId entity => "entity " ++ quoted entity ++ " has no id property"
  | .invalidId entity =>
    "entity " ++ quoted entity ++ ": id must resolve to a string or uuid shape"
  | .foreignKeyOnArray entity field =>
    "entity " ++ quoted entity ++ ": relationship " ++ quoted field ++
      " uses fk storage but property is an array"
  | .unknownTarget entity field target =>
    "entity " ++ quoted entity ++ ": relationship " ++ quoted field ++
      " targets unknown entity " ++ quoted target
  | .relationshipWithoutProperty entity field =>
    "entity " ++ quoted entity ++ ": relationship " ++ quoted field ++ " has no matching property"
  | .unknownNaturalKeyField entity field =>
    "entity " ++ quoted entity ++ ": natural key field " ++ quoted field ++ " is not a column"
  | .duplicateTable first second table =>
    "entities " ++ quoted first ++ " and " ++ quoted second ++ " both map to table " ++ quoted table
  | .layout cause => "format generated code: " ++ cause.message

/-- The message of the error and then the one of its cause. -/
def chain (e : GenerateError) : String :=
  match e.cause? with
  | some cause => e.message ++ ": " ++ cause
  | none => e.message

end GenerateError

end EntityModel
