import EntityModel.Json.Value
import EntityModel.Text.IgnoreCase

/-! # Schemas

A schema describes the entities of a domain: their properties, the relationships between them, the
enumerations and shared definitions that properties refer to, natural keys, and state machines.
All maps go by name. -/

namespace EntityModel

/-! ## Properties -/

/-- The shape of a property, a definition, or a part of one. -/
structure Property where
  /-- The JSON type. -/
  type : Option String
  /-- The format of a primitive type. -/
  format : Option String
  /-- The reference to an enumeration or a definition. -/
  reference : Option String
  /-- The documentation. -/
  description : Option String
  /-- The shape of the items of an array. -/
  items : Option Property
  /-- The members of an object, by ascending names. -/
  properties : List (String × Property)
  /-- The required members of an object. -/
  required : List String
  /-- What an object may hold besides its members. Only a truth value has a meaning here. -/
  additionalProperties : Option Json.Value

namespace Property

/-- The property that says nothing. -/
def blank : Property := ⟨none, none, none, none, none, [], [], none⟩

/-- The property that says nothing is a property. -/
instance : Inhabited Property := ⟨blank⟩

/-- A property of a JSON type. -/
def primitive (type : String) : Property := { blank with type := some type }

/-- A property that refers to an enumeration or a definition. -/
def refer (target : String) : Property := { blank with reference := some target }

/-- An array of items of one shape. -/
def arrayOf (items : Property) : Property :=
  { blank with type := some "array", items := some items }

/-- The property with another format. -/
def withFormat (p : Property) (format : String) : Property := { p with format := some format }

/-- Whether other members are allowed, if the property says so with a truth value. -/
def additionalPropertiesFlag (p : Property) : Option Bool :=
  p.additionalProperties.bind Json.Value.flag?

/-- Whether the member is required. Case does not matter. -/
def isRequired (p : Property) (member : String) : Bool :=
  p.required.any (Text.equalIgnoringCase · member)

end Property

/-! ## Enumerations -/

/-- An enumeration of strings, which may be the states of a state machine. -/
structure Enumeration where
  /-- The values in their order. -/
  values : List String
  /-- The documentation. -/
  description : String
  /-- The state in which things start, or nothing. -/
  initial : String
  /-- The states in which things end. -/
  terminal : List String

/-- Whether the enumeration has the value. -/
def Enumeration.contains (e : Enumeration) (value : String) : Bool := e.values.contains value

/-! ## Relationships -/

/-- How many targets a relationship has. -/
inductive Cardinality where
  /-- At most one. -/
  | zeroOrOne
  /-- One. -/
  | exactlyOne
  /-- Any number. -/
  | zeroOrMany
  /-- At least one. -/
  | oneOrMany
  deriving DecidableEq, Repr

/-- Whether there is at most one target. -/
def Cardinality.isSingular : Cardinality → Bool
  | .zeroOrOne => true
  | .exactlyOne => true
  | .zeroOrMany => false
  | .oneOrMany => false

/-- How a relationship asks to be stored. -/
inductive StorageRequest where
  /-- As the compiler decides. -/
  | automatic
  /-- As a foreign key. -/
  | foreignKey
  /-- As a document. -/
  | json
  deriving DecidableEq, Repr

/-- A relationship from the entity that declares it. -/
structure Relationship where
  /-- The entity it leads to. -/
  target : String
  /-- How many targets there are. -/
  cardinality : Cardinality
  /-- How it asks to be stored. -/
  storage : StorageRequest
  deriving DecidableEq, Repr

/-! ## Entities -/

/-- Fields that together identify an entity. -/
structure NaturalKey where
  /-- The fields in their order. -/
  fields : List String
  /-- Where the key is unique. -/
  scope : String
  /-- The documentation. -/
  description : String
  deriving DecidableEq, Repr

/-- The state machine of an entity. -/
structure StateMachine where
  /-- The enumeration of its states. -/
  enumeration : String
  /-- The state in which entities start, or nothing. -/
  initial : String
  /-- The states in which entities end. -/
  terminal : List String
  deriving DecidableEq, Repr

/-- An entity of the domain. -/
structure Entity where
  /-- The documentation. -/
  description : String
  /-- The required properties. -/
  required : List String
  /-- The properties. -/
  properties : NameMap Property
  /-- The relationships, each named like the property that holds it. -/
  relationships : NameMap Relationship
  /-- The natural keys. -/
  naturalKeys : List NaturalKey
  /-- The state machine, if there is one. -/
  states : Option StateMachine
  /-- Invariants, for documentation only. -/
  invariants : List String

/-- Whether the property is required. Case does not matter. -/
def Entity.isRequired (e : Entity) (field : String) : Bool :=
  e.required.any (Text.equalIgnoringCase · field)

/-! ## Schemas -/

/-- Facts about the schema itself. -/
structure Metadata where
  /-- How mature the schema is. -/
  status : String
  deriving DecidableEq, Repr

/-- What all entities have in common about their identifiers. -/
structure IdSemantics where
  /-- The type of identifiers. -/
  type : String
  /-- Where identifiers are unique. -/
  scope : String
  /-- Whether every entity has one. -/
  required : Bool
  /-- The documentation. -/
  description : String
  deriving DecidableEq, Repr

/-- A model of entities. -/
structure Schema where
  /-- The version of the model. -/
  version : String
  /-- Facts about the schema itself. -/
  metadata : Metadata
  /-- What the identifiers have in common. -/
  idSemantics : Option IdSemantics
  /-- The enumerations. -/
  enums : NameMap Enumeration
  /-- The shared definitions. -/
  definitions : NameMap Property
  /-- The entities. -/
  entities : NameMap Entity

end EntityModel
