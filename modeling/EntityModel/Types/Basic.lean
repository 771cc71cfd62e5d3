import EntityModel.Schema.Basic
import EntityModel.Text.Quoted

/-! # Types of properties

The meaning of a property: a primitive type, a reference to an enumeration or a definition, an
array, an object, or anything. Meanings do not depend on the language that code is generated for. -/

namespace EntityModel

/-! ## References -/

/-- What a reference leads to. -/
inductive Reference where
  /-- A definition. -/
  | definition (name : String)
  /-- An enumeration. -/
  | enumeration (name : String)
  /-- Neither of them. -/
  | other
  deriving DecidableEq, Repr

namespace Reference

/-- What follows the given characters at the start of a text. -/
def after? : List Char → List Char → Option (List Char)
  | [], text => some text
  | _ :: _, [] => none
  | p :: start, c :: text => if p = c then after? start text else none

/-- What references to definitions start with. -/
def definitionsPath : String := "#/definitions/"

/-- What references to enumerations start with. -/
def enumsPath : String := "#/enums/"

/-- Reads a reference. -/
def ofTarget (target : String) : Reference :=
  match after? definitionsPath.toList target.toList with
  | some name => .definition (String.ofList name)
  | none =>
    match after? enumsPath.toList target.toList with
    | some name => .enumeration (String.ofList name)
    | none => .other

/-- Behind its start, the rest of a text follows. -/
theorem after?_append (start text : List Char) : after? start (start ++ text) = some text := by
  induction start with
  | nil => cases text <;> rfl
  | cons p start ih => simp [after?, ih]

/-- The path of definitions and a name lead to the definition of this name. -/
@[simp] theorem ofTarget_definition (name : String) :
    ofTarget (definitionsPath ++ name) = .definition name := by
  simp [ofTarget, String.toList_append, after?_append]

end Reference

/-! ## Primitive types -/

/-- The primitive JSON types. -/
inductive PrimitiveKind where
  /-- Text. -/
  | string
  /-- Whole numbers. -/
  | integer
  /-- Numbers. -/
  | number
  /-- Truth values. -/
  | boolean
  deriving DecidableEq, Repr

/-- The name of a primitive type. -/
def PrimitiveKind.name : PrimitiveKind → String
  | .string => "string"
  | .integer => "integer"
  | .number => "number"
  | .boolean => "boolean"

/-- The primitive type of a name. -/
def PrimitiveKind.ofName? (name : String) : Option PrimitiveKind :=
  if name = "string" then some .string
  else if name = "integer" then some .integer
  else if name = "number" then some .number
  else if name = "boolean" then some .boolean
  else none

/-- The name of a primitive type leads back to it. -/
@[simp] theorem PrimitiveKind.ofName?_name (k : PrimitiveKind) : ofName? k.name = some k := by
  cases k <;> rfl

/-- A primitive type with its format. -/
structure Primitive where
  /-- The type. -/
  kind : PrimitiveKind
  /-- The format, if there is one. -/
  format : Option String
  deriving DecidableEq, Repr

/-- Whether the type is a point in time. -/
def Primitive.isChronological (p : Primitive) : Bool :=
  p.kind = .string && (p.format = some "date-time" || p.format = some "timestamp")

/-- Whether the type is a universally unique identifier. -/
def Primitive.isUuid (p : Primitive) : Bool := p.kind = .string && p.format = some "uuid"

/-! ## Meanings -/

/-- An object with its own members. -/
structure ObjectShape where
  /-- The members, by ascending names. -/
  properties : List (String × Property)
  /-- The required members. -/
  required : List String
  /-- Whether other members are allowed, if that is said. -/
  additionalProperties : Option Bool

/-- The meaning of a property. -/
inductive SemanticType where
  /-- A primitive type. -/
  | primitive (p : Primitive)
  /-- A reference to an enumeration that exists. -/
  | enumeration (name : String)
  /-- A reference to a definition that exists. -/
  | definition (name : String)
  /-- An array of items of one type. -/
  | array (items : SemanticType)
  /-- An object. -/
  | object (shape : ObjectShape)
  /-- Anything. -/
  | any

/-- Whether the type is an array. -/
def SemanticType.isArray : SemanticType → Bool
  | .array _ => true
  | _ => false

/-- The definitions that are known by name. -/
inductive WellKnown where
  /-- The identifier of an entity. -/
  | id
  /-- The identifier of another entity. -/
  | entityId
  /-- A point in time. -/
  | timestamp
  deriving DecidableEq, Repr

/-- The known definition of a name. -/
def WellKnown.ofDefinition? (name : String) : Option WellKnown :=
  if name = "id" then some .id
  else if name = "entity_id" then some .entityId
  else if name = "timestamp" then some .timestamp
  else none

/-- Whether the definition is an identifier. -/
def WellKnown.isIdentifier : WellKnown → Bool
  | .id => true
  | .entityId => true
  | .timestamp => false

/-! ## Errors -/

/-- Why a property has no meaning. -/
inductive ResolveError where
  /-- The target of the reference is no definition. -/
  | unknownDefinition (target : String)
  /-- The target of the reference is no enumeration. -/
  | unknownEnum (target : String)
  /-- The target is neither a definition nor an enumeration. -/
  | unsupportedRef (target : String)
  /-- The references lead back to the definition. -/
  | refCycle (name : String)
  deriving DecidableEq, Repr

/-- The message of an error. -/
def ResolveError.message : ResolveError → String
  | .unknownDefinition target => "unknown definition reference " ++ Text.quoted target
  | .unknownEnum target => "unknown enum reference " ++ Text.quoted target
  | .unsupportedRef target => "unsupported ref " ++ Text.quoted target
  | .refCycle name => "definition reference cycle through " ++ Text.quoted name

/-- Why a property has no type in the language that code is generated for. -/
inductive TypeError where
  /-- A property on the way to the type has no meaning. -/
  | unresolved (cause : ResolveError)
  /-- The type has no end, as it holds itself. A program that looks for it recurses until it is
  stopped, and reports nothing. -/
  | endless
  deriving DecidableEq, Repr

/-- The message of an error. There is one for types without an end only because every error has
one. -/
def TypeError.message : TypeError → String
  | .unresolved cause => cause.message
  | .endless => "the type has no end"

/-- The error is one that a program reports. -/
def TypeError.IsReported : TypeError → Prop
  | .unresolved _ => True
  | .endless => False

end EntityModel
