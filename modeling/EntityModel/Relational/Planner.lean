import EntityModel.GenerateError
import EntityModel.Relational.CreationOrder
import EntityModel.Relational.Storage
import EntityModel.Types.Resolve

/-! # Planning

`Schema.plan` makes the relational plan of a schema: it checks identifiers, decides where every
relationship is stored, and then makes the tables, join tables and indexes. -/

namespace EntityModel

open Relational

/-! ## Types of columns -/

/-- The type of a column, and the values that are allowed in it. -/
structure ColumnShape where
  /-- The type. -/
  type : ColumnType
  /-- The values that are allowed, if they are listed. -/
  allowed : Option (List String)
  deriving DecidableEq, Repr

/-- The type of a column for a primitive type. -/
def Primitive.columnType (p : Primitive) : ColumnType :=
  if p.isUuid then .uuid
  else if p.isChronological then .timestamp
  else
    match p.kind with
    | .string => .text
    | .integer => .integer
    | .number => .number
    | .boolean => .boolean

namespace Vocabulary

/-- The values of an enumeration, if it has any. -/
def allowedValues (v : Vocabulary) (name : String) : Option (List String) :=
  match v.enums.find? name with
  | some e => if e.values.isEmpty then none else some e.values
  | none => none

/-- The shape of a column for a type that is no reference to a definition. -/
def directColumn (v : Vocabulary) : SemanticType → ColumnShape
  | .primitive p => ⟨p.columnType, none⟩
  | .enumeration name => ⟨.text, v.allowedValues name⟩
  | .definition _ | .array _ | .object _ | .any => ⟨.json, none⟩

/-- The shape of a column for a type. The well-known definitions have types of their own. -/
def columnOfType (v : Vocabulary) (type : SemanticType) : Except ResolveError ColumnShape :=
  match type with
  | .definition name =>
    match WellKnown.ofDefinition? name with
    | some known => .ok ⟨if known.isIdentifier then .uuid else .timestamp, none⟩
    | none => v.directColumn <$> v.underlying type
  | _ => .ok (v.directColumn type)

/-- The shape of a column for a property. -/
def columnShape (v : Vocabulary) (p : Property) : Except ResolveError ColumnShape := do
  let type ← v.resolve p
  v.columnOfType type

end Vocabulary

namespace Schema

/-! ## Identifiers -/

/-- The type of an entity's identifier. -/
def idType (v : Vocabulary) (name : String) (entity : Entity) :
    Except GenerateError ColumnType :=
  match entity.properties.find? "id" with
  | none => .error (.missingId name)
  | some p =>
    match v.columnShape p with
    | .error e => .error (.property name "id" (.unresolved e))
    | .ok shape => if shape.type.isIdentifier then .ok shape.type else .error (.invalidId name)

/-- The types of the entities' identifiers, given the tables of the entities before them. -/
def idTypesFrom (v : Vocabulary) (owners : List (String × String)) :
    List (String × Entity) → Except GenerateError (List (String × ColumnType))
  | [] => .ok []
  | (name, entity) :: rest =>
    let table := Naming.tableName name
    match Entries.find? table owners with
    | some first => .error (.duplicateTable first name table)
    | none => do
      let type ← idType v name entity
      let types ← idTypesFrom v ((table, name) :: owners) rest
      return (name, type) :: types

/-- The types of the entities' identifiers. -/
def idTypes (s : Schema) : Except GenerateError (List (String × ColumnType)) :=
  idTypesFrom s.vocabulary [] s.entities.entries

end Schema

/-! ## Relationships -/

/-- A relationship with the entity and the field that declare it. -/
structure Link where
  /-- The entity that declares it. -/
  owner : String
  /-- The field that holds it. -/
  field : String
  /-- The relationship. -/
  relationship : Relationship
  /-- Whether the field is an array. -/
  isArray : Bool
  deriving DecidableEq, Repr

namespace Link

/-- The entity that the link leads to. -/
def target (l : Link) : String := l.relationship.target

/-- Whether the link leads to its own entity. -/
def isSelfJoin (l : Link) : Bool := l.target = l.owner

/-- Whether the other link leads the opposite way. -/
def isReverse (l other : Link) : Bool := other.owner = l.target && other.target = l.owner

/-- Whether the target has a foreign key to the owner. -/
def hasInverseKey (links : List Link) (l : Link) : Bool :=
  !l.isSelfJoin && links.any fun other =>
    l.isReverse other && !other.isArray && other.relationship.cardinality.isSingular

/-- The facts that do not depend on sharing. -/
def ownFacts (links : List Link) (l : Link) : RelationshipFacts where
  isArray := l.isArray
  storage := l.relationship.storage
  hasInverseKey := l.hasInverseKey links
  isSelfJoin := l.isSelfJoin
  isShared := false

/-- Whether the link could share its join table with an opposite one. -/
def isPairable (links : List Link) (l : Link) : Bool := (l.ownFacts links).isPairable

/-- How many links between two entities could share their join tables. -/
def pairableCount (links : List Link) (owner target : String) : Nat :=
  links.countP fun l => l.owner = owner && l.target = target && l.isPairable links

/-- Whether the link shares its join table: it is the only one of its direction that could, and so
is the one in the opposite direction. -/
def isShared (links : List Link) (l : Link) : Bool :=
  l.isPairable links && pairableCount links l.owner l.target = 1 &&
    pairableCount links l.target l.owner = 1

/-- What the storage of the link depends on. -/
def facts (links : List Link) (l : Link) : RelationshipFacts :=
  { l.ownFacts links with isShared := l.isShared links }

end Link

/-- A link with the decision about its storage. -/
structure StoredLink extends Link where
  /-- Where the link is stored. -/
  decision : StorageDecision
  deriving DecidableEq, Repr

namespace Schema

/-- The link of a relationship. -/
def link (s : Schema) (owner : String) (entity : Entity) (field : String) (r : Relationship) :
    Except GenerateError Link :=
  match entity.properties.find? field with
  | none => .error (.relationshipWithoutProperty owner field)
  | some p =>
    if !s.entities.contains r.target then .error (.unknownTarget owner field r.target)
    else
      match s.vocabulary.isArray p with
      | .error e => .error (.property owner field (.unresolved e))
      | .ok isArray => .ok ⟨owner, field, r, isArray⟩

/-- The links of all relationships, by entity and field. -/
def links (s : Schema) : Except GenerateError (List Link) := do
  let ofEntities ← s.entities.entries.mapM fun (owner, entity) =>
    entity.relationships.entries.mapM fun (field, r) => s.link owner entity field r
  return ofEntities.flatten

/-- The decision about the storage of a link. -/
def storeLink (links : List Link) (l : Link) : Except GenerateError StoredLink :=
  match (l.facts links).decide? with
  | some decision => .ok ⟨l, decision⟩
  | none => .error (.foreignKeyOnArray l.owner l.field)

/-- The links of all relationships with the decisions about their storage. -/
def storedLinks (s : Schema) : Except GenerateError (List StoredLink) := do
  let links ← s.links
  links.mapM (storeLink links)

/-! ## Tables -/

/-- The column of a property. -/
def column (v : Vocabulary) (owner : String) (entity : Entity) (name : String) (p : Property) :
    Except GenerateError Column :=
  match v.columnShape p with
  | .error e => .error (.property owner name (.unresolved e))
  | .ok shape =>
    let isKey : Bool := name = "id"
    .ok ⟨name, shape.type, isKey || entity.isRequired name, isKey, shape.allowed⟩

/-- The links that an entity declares. -/
def linksOf (links : List StoredLink) (owner : String) : List StoredLink :=
  links.filter (·.owner = owner)

/-- Whether the field stays a column of its entity's table. -/
def keepsField (links : List StoredLink) (field : String) : Bool :=
  !links.any fun l => l.field = field && !l.decision.keepsColumn

/-- The foreign key of a link. -/
def foreignKey (l : StoredLink) : ForeignKey := ⟨l.field, Naming.tableName l.target, false⟩

/-- The table of an entity. -/
def table (v : Vocabulary) (links : List StoredLink) (name : String) (entity : Entity) :
    Except GenerateError Table := do
  let links := linksOf links name
  let fields := entity.properties.entries.filter fun field => keepsField links field.1
  let columns ← fields.mapM fun (field, p) => column v name entity field p
  return {
    name := Naming.tableName name
    entity := name
    columns := columns.filter (·.primaryKey) ++ columns.filter (!·.primaryKey)
    foreignKeys := (links.filter (·.decision = .foreignKey)).map foreignKey }

/-! ## Join tables -/

/-- The column of a join table that leads to an entity. -/
def joinColumn (idTypes : List (String × ColumnType)) (name entity : String) : JoinColumn :=
  ⟨name, (Entries.find? entity idTypes).getD .uuid, Naming.tableName entity⟩

/-- The name of the join table that a field of an entity gives it. -/
def joinName (owner field : String) : String := Naming.tableName owner ++ "__" ++ field

/-- The join table from one entity to another. -/
def joinBetween (idTypes : List (String × ColumnType)) (name owner target : String) : JoinTable :=
  ⟨name, joinColumn idTypes (Naming.idColumn owner) owner,
    joinColumn idTypes (Naming.idColumn target) target⟩

/-- The name that the opposite link of a shared join table gives it. -/
def reverseJoinName? (links : List StoredLink) (l : StoredLink) : Option String :=
  (links.find? fun other => other.decision = .sharedJoinTable && l.isReverse other.toLink).map
    fun other => joinName other.owner other.field

/-- The join table of a link. A shared one has the smaller of its two names, and belongs to the
entity that gave it. -/
def joinTable (idTypes : List (String × ColumnType)) (links : List StoredLink) (l : StoredLink) :
    JoinTable :=
  let name := joinName l.owner l.field
  match l.decision with
  | .selfJoinTable =>
    ⟨name, joinColumn idTypes (Naming.idColumn l.owner) l.owner,
      joinColumn idTypes (l.field ++ "_id") l.owner⟩
  | .sharedJoinTable =>
    match reverseJoinName? links l with
    | some reverse =>
      if reverse < name then joinBetween idTypes reverse l.target l.owner
      else joinBetween idTypes name l.owner l.target
    | none => joinBetween idTypes name l.owner l.target
  | _ => joinBetween idTypes name l.owner l.target

/-- The links that are stored in join tables. -/
def joinedLinks (links : List StoredLink) : List StoredLink :=
  links.filter (·.decision.usesJoinTable)

/-- The join tables of links by name. Of two tables of one name the first is kept. -/
def joinTables (idTypes : List (String × ColumnType)) (links : List StoredLink) : List JoinTable :=
  let named := (joinedLinks links).map fun l =>
    let join := joinTable idTypes links l
    (join.name, join)
  -- A later entry replaces an earlier one of its name.
  (NameMap.ofList named.reverse).entries.map (·.2)

/-- The required join of a link. -/
def requiredJoin (idTypes : List (String × ColumnType)) (links : List StoredLink) (l : StoredLink) :
    RequiredJoin :=
  let join := joinTable idTypes links l
  ⟨join.name,
    if l.decision = .sharedJoinTable then Naming.idColumn l.owner else join.owner.name,
    Naming.tableName l.owner⟩

/-- Whether the link is required by its entity. -/
def isRequiredLink (s : Schema) (l : StoredLink) : Bool :=
  (s.entities.find? l.owner).any (·.isRequired l.field)

/-- The required joins of links, in their order. -/
def requiredJoins (s : Schema) (idTypes : List (String × ColumnType)) (links : List StoredLink) :
    List RequiredJoin :=
  ((joinedLinks links).filter s.isRequiredLink).foldl
    (fun acc l => (requiredJoin idTypes links l).insert acc) []

/-! ## Indexes -/

/-- The index of a natural key, which is the one of its position. A key without fields has none. -/
def keyIndex (entity : String) (table : Table) (position : Nat) (key : NaturalKey) :
    Except GenerateError (List UniqueIndex) :=
  if key.fields.isEmpty then .ok []
  else
    match key.fields.find? fun field => !table.columns.any (·.name = field) with
    | some field => .error (.unknownNaturalKeyField entity field)
    | none =>
      .ok [⟨"idx_" ++ table.name ++ "_nk_" ++ toString position, table.name, key.fields⟩]

/-- The indexes of natural keys from a position on. -/
def keyIndexes (entity : String) (table : Table) (position : Nat) :
    List NaturalKey → Except GenerateError (List UniqueIndex)
  | [] => .ok []
  | key :: rest => do
    let index ← keyIndex entity table position key
    let indexes ← keyIndexes entity table (position + 1) rest
    return index ++ indexes

/-- The indexes of an entity's natural keys. -/
def entityIndexes (tables : List Table) (name : String) (entity : Entity) :
    Except GenerateError (List UniqueIndex) :=
  match Table.find? tables (Naming.tableName name) with
  | none => .ok []
  | some table => keyIndexes name table 1 entity.naturalKeys

/-! ## Plans -/

/-- The relational plan of a schema. -/
def plan (s : Schema) : Except GenerateError Plan := do
  let idTypes ← s.idTypes
  let links ← s.storedLinks
  let tables ← s.entities.entries.mapM fun (name, entity) => table s.vocabulary links name entity
  let indexes ← s.entities.entries.mapM fun (name, entity) => entityIndexes tables name entity
  return {
    tables := Table.creationOrder tables
    joinTables := joinTables idTypes links
    indexes := indexes.flatten
    requiredJoins := s.requiredJoins idTypes links }

end Schema

end EntityModel
