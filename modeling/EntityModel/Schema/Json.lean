import EntityModel.Json.Decode
import EntityModel.Schema.Basic

/-! # Schemas as JSON

How a schema is read from a JSON document and written as one. Reading fills in defaults and skips
unknown names; writing leaves out the parts of a property that are absent or empty. -/

namespace EntityModel

open Json

/-! ## Reading -/

/-- The shape of a property in a document, given the decoder of the properties inside it. -/
def Property.record (inner : Decoder Property) : Record Property where
  name := "Property"
  blank := .blank
  fields := [
    .withDefault "type" (.optional .string) fun v p => { p with type := v },
    .withDefault "format" (.optional .string) fun v p => { p with format := v },
    .withDefault "$ref" (.optional .string) fun v p => { p with reference := v },
    .withDefault "description" (.optional .string) fun v p => { p with description := v },
    .withDefault "items" (.optional inner) fun v p => { p with items := v },
    .withDefault "properties" (.entries inner) fun v p => { p with properties := v },
    .withDefault "required" (.list .string) fun v p => { p with required := v },
    .withDefault "additionalProperties" (.optional .any)
      fun v p => { p with additionalProperties := v }]
  closed := false

/-- A property of at most the given number of levels. -/
def Property.decoderWithin : Nat → Decoder Property
  | 0, _, _, _ => Decoder.fail .malformed
  | levels + 1, origin, room, node =>
    (Property.record (decoderWithin levels)).decode origin room node

/-- A property. It cannot have more levels than there is room. -/
def Property.decoder : Decoder Property := fun origin room node =>
  decoderWithin (room + 1) origin room node

/-- The shape of an enumeration in a document. -/
def Enumeration.record : Record Enumeration where
  name := "Enum"
  blank := ⟨[], "", "", []⟩
  fields := [
    .withDefault "values" (.list .string) fun v e => { e with values := v },
    .withDefault "description" .string fun v e => { e with description := v },
    .withDefault "initial" .string fun v e => { e with initial := v },
    .withDefault "terminal" (.list .string) fun v e => { e with terminal := v }]
  closed := false

/-- The names of the cardinalities. -/
def Cardinality.names : List (String × Cardinality) :=
  [("0..1", .zeroOrOne), ("1..1", .exactlyOne), ("0..n", .zeroOrMany), ("1..n", .oneOrMany)]

/-- The names of the ways to ask for storage. -/
def StorageRequest.names : List (String × StorageRequest) :=
  [("", .automatic), ("fk", .foreignKey), ("json", .json)]

/-- The shape of a relationship in a document. -/
def Relationship.record : Record Relationship where
  name := "Relationship"
  blank := ⟨"", .zeroOrOne, .automatic⟩
  fields := [
    .withoutDefault "target" .string fun v r => { r with target := v },
    .withoutDefault "cardinality" (.variant Cardinality.names)
      fun v r => { r with cardinality := v },
    .withDefault "storage" (.variant StorageRequest.names) fun v r => { r with storage := v }]
  closed := false

/-- The shape of a natural key in a document. -/
def NaturalKey.record : Record NaturalKey where
  name := "NaturalKey"
  blank := ⟨[], "", ""⟩
  fields := [
    .withoutDefault "fields" (.list .string) fun v k => { k with fields := v },
    .withDefault "scope" .string fun v k => { k with scope := v },
    .withDefault "description" .string fun v k => { k with description := v }]
  closed := false

/-- The shape of a state machine in a document. -/
def StateMachine.record : Record StateMachine where
  name := "States"
  blank := ⟨"", "", []⟩
  fields := [
    .withoutDefault "enum" .string fun v s => { s with enumeration := v },
    .withDefault "initial" .string fun v s => { s with initial := v },
    .withDefault "terminal" (.list .string) fun v s => { s with terminal := v }]
  closed := false

/-- The shape of an entity in a document. -/
def Entity.record : Record Entity where
  name := "Entity"
  blank := ⟨"", [], ∅, ∅, [], none, []⟩
  fields := [
    .withDefault "description" .string fun v e => { e with description := v },
    .withDefault "required" (.list .string) fun v e => { e with required := v },
    .withDefault "properties" (.nameMap Property.decoder) fun v e => { e with properties := v },
    .withDefault "relationships" (.nameMap Relationship.record.decode)
      fun v e => { e with relationships := v },
    .withDefault "natural_keys" (.list NaturalKey.record.decode)
      fun v e => { e with naturalKeys := v },
    .withDefault "states" (.optional StateMachine.record.decode) fun v e => { e with states := v },
    .withDefault "invariants" (.list .string) fun v e => { e with invariants := v }]
  closed := false

/-- The shape of the metadata in a document. -/
def Metadata.record : Record Metadata where
  name := "Metadata"
  blank := ⟨""⟩
  fields := [.withDefault "status" .string fun v m => { m with status := v }]
  closed := false

/-- The shape of the semantics of identifiers in a document. -/
def IdSemantics.record : Record IdSemantics where
  name := "IdSemantics"
  blank := ⟨"", "", false, ""⟩
  fields := [
    .withDefault "type" .string fun v s => { s with type := v },
    .withDefault "scope" .string fun v s => { s with scope := v },
    .withDefault "required" .bool fun v s => { s with required := v },
    .withDefault "description" .string fun v s => { s with description := v }]
  closed := false

/-- The shape of a schema in a document. -/
def Schema.record : Record Schema where
  name := "Schema"
  blank := ⟨"", ⟨""⟩, none, ∅, ∅, ∅⟩
  fields := [
    .withDefault "version" .string fun v s => { s with version := v },
    .withDefault "metadata" Metadata.record.decode fun v s => { s with metadata := v },
    .withDefault "id_semantics" (.optional IdSemantics.record.decode)
      fun v s => { s with idSemantics := v },
    .withDefault "enums" (.nameMap Enumeration.record.decode) fun v s => { s with enums := v },
    .withDefault "definitions" (.nameMap Property.decoder) fun v s => { s with definitions := v },
    .withDefault "entities" (.nameMap Entity.record.decode) fun v s => { s with entities := v }]
  closed := false

/-- Reads a schema from a text. -/
def Schema.parse (text : String) : Except Problem Schema := decodeText Schema.record.decode text

/-- Reads a schema from a value. -/
def Schema.ofValue (value : Value) : Except Problem Schema :=
  decodeValue Schema.record.decode value

/-- Reads a property from a text. -/
def Property.parse (text : String) : Except Problem Property := decodeText Property.decoder text

/-! ## Writing -/

/-- The member of an object, if it has a value. -/
def presentMember (name : String) (value : Option Value) : List (String × Value) :=
  match value with
  | some v => [(name, v)]
  | none => []

mutual

/-- The property as a value. -/
def Property.toValue : Property → Value
  | ⟨type, format, reference, description, items, properties, required, additionalProperties⟩ =>
    .object <|
      presentMember "$ref" (reference.map .string) ++
      presentMember "additionalProperties" additionalProperties ++
      presentMember "description" (description.map .string) ++
      presentMember "format" (format.map .string) ++
      presentMember "items" (itemsToValue items) ++
      (match propertiesToValue properties with
        | [] => []
        | members => [("properties", .object members)]) ++
      (match required with
        | [] => []
        | names => [("required", .strings names)]) ++
      presentMember "type" (type.map .string)

/-- The shape of items as a value. -/
def itemsToValue : Option Property → Option Value
  | none => none
  | some p => some p.toValue

/-- Named properties as named values. -/
def propertiesToValue : List (String × Property) → List (String × Value)
  | [] => []
  | (name, p) :: rest => (name, p.toValue) :: propertiesToValue rest

end

/-- A map as an object. -/
def NameMap.toValue {α : Type} (m : NameMap α) (encode : α → Value) : Value :=
  .object (m.entries.map fun e => (e.1, encode e.2))

/-- The enumeration as a value. -/
def Enumeration.toValue (e : Enumeration) : Value :=
  .object [
    ("description", .string e.description),
    ("initial", .string e.initial),
    ("terminal", .strings e.terminal),
    ("values", .strings e.values)]

/-- The name of a cardinality. -/
def Cardinality.name : Cardinality → String
  | .zeroOrOne => "0..1"
  | .exactlyOne => "1..1"
  | .zeroOrMany => "0..n"
  | .oneOrMany => "1..n"

/-- The name of a way to ask for storage. -/
def StorageRequest.name : StorageRequest → String
  | .automatic => ""
  | .foreignKey => "fk"
  | .json => "json"

/-- The name of a cardinality is found among the names and leads back to it. -/
@[simp] theorem Cardinality.find?_name (c : Cardinality) : Entries.find? c.name names = some c := by
  cases c <;> rfl

/-- The name of a request is found among the names and leads back to it. -/
@[simp] theorem StorageRequest.find?_name (s : StorageRequest) :
    Entries.find? s.name names = some s := by
  cases s <;> rfl

/-- The relationship as a value. -/
def Relationship.toValue (r : Relationship) : Value :=
  .object [
    ("cardinality", .string r.cardinality.name),
    ("storage", .string r.storage.name),
    ("target", .string r.target)]

/-- The natural key as a value. -/
def NaturalKey.toValue (k : NaturalKey) : Value :=
  .object [
    ("description", .string k.description),
    ("fields", .strings k.fields),
    ("scope", .string k.scope)]

/-- The state machine as a value. -/
def StateMachine.toValue (s : StateMachine) : Value :=
  .object [
    ("enum", .string s.enumeration),
    ("initial", .string s.initial),
    ("terminal", .strings s.terminal)]

/-- The entity as a value. -/
def Entity.toValue (e : Entity) : Value :=
  .object <| [
    ("description", .string e.description),
    ("invariants", .strings e.invariants),
    ("natural_keys", .array (e.naturalKeys.map (·.toValue))),
    ("properties", e.properties.toValue (·.toValue)),
    ("relationships", e.relationships.toValue (·.toValue)),
    ("required", .strings e.required)] ++
    presentMember "states" (e.states.map (·.toValue))

/-- The semantics of identifiers as a value. -/
def IdSemantics.toValue (s : IdSemantics) : Value :=
  .object [
    ("description", .string s.description),
    ("required", .bool s.required),
    ("scope", .string s.scope),
    ("type", .string s.type)]

/-- The schema as a value. -/
def Schema.toValue (s : Schema) : Value :=
  .object <| [
    ("definitions", s.definitions.toValue (·.toValue)),
    ("entities", s.entities.toValue (·.toValue)),
    ("enums", s.enums.toValue (·.toValue))] ++
    presentMember "id_semantics" (s.idSemantics.map (·.toValue)) ++ [
    ("metadata", .object [("status", .string s.metadata.status)]),
    ("version", .string s.version)]

end EntityModel
