import EntityModel.Json.Reader
import EntityModel.Text.Quoted

/-! # Decoding JSON

A decoder turns a document into a value of the model, or names the first problem in reading order:
a broken place of the text or something that does not fit. Arrays and objects that are used may be
nested 127 deep; a decoder is told how much `room` is left.

Records are objects with known names. A record may also be written as the array of its fields in
their order.

A document may also come from a value instead of a text. A value is there as a whole, so that what
is wrong with it is always a matter of its shape, and it may be nested as deep as it is. -/

namespace EntityModel.Json

/-! ## What does not fit -/

/-- What a document holds where something else is expected. -/
inductive Found where
  /-- The null value. -/
  | null
  /-- A truth value. -/
  | bool (b : Bool)
  /-- A number. -/
  | number (n : Number)
  /-- A string. -/
  | string (s : String)
  /-- An array. -/
  | sequence
  /-- An object. -/
  | map
  deriving DecidableEq, Repr

/-- The description of what is found. -/
def Found.text : Found → String
  | .null => "null"
  | .bool b => "boolean `" ++ toString b ++ "`"
  | .number (.integer n) => "integer `" ++ toString n ++ "`"
  | .number (.double d) => "floating point `" ++ d.text ++ "`"
  | .string s => "string " ++ Text.quoted s
  | .sequence => "sequence"
  | .map => "map"

/-- A way in which a document does not have the expected shape. -/
inductive Mismatch where
  /-- A value is of another type than the expected one. -/
  | wrongType (found : Found) (expected : String)
  /-- A name that the record does not have. -/
  | unknownField (name : String) (known : List String)
  /-- A name stands twice in a record. -/
  | duplicateField (name : String)
  /-- A field without a default is not there. -/
  | missingField (name : String)
  /-- A record written as an array is too short. -/
  | wrongLength (length : Nat) (record : String) (fields : Nat)
  /-- A record written as an array is too long. -/
  | surplusItems (length : Nat)
  /-- A string that is none of the names it may be. -/
  | unknownVariant (name : String) (known : List String)
  /-- An object in place of a name does not have exactly one member. -/
  | notOneMember
  deriving DecidableEq, Repr

/-- A name between backquotes. -/
def ticked (name : String) : String := "`" ++ name ++ "`"

/-- The names that are allowed. -/
def expectedNames : List String → String
  | [a] => ticked a
  | [a, b] => ticked a ++ " or " ++ ticked b
  | names => "one of " ++ ", ".intercalate (names.map ticked)

/-- The message of a mismatch. -/
def Mismatch.message : Mismatch → String
  | .wrongType found expected => "invalid type: " ++ found.text ++ ", expected " ++ expected
  | .unknownField name known =>
    "unknown field " ++ ticked name ++ ", expected " ++ expectedNames known
  | .duplicateField name => "duplicate field " ++ ticked name
  | .missingField name => "missing field " ++ ticked name
  | .wrongLength length record fields =>
    "invalid length " ++ toString length ++ ", expected struct " ++ record ++ " with " ++
      toString fields ++ " element" ++ (if fields = 1 then "" else "s")
  | .surplusItems length =>
    "invalid length " ++ toString length ++ ", expected fewer elements in array"
  | .unknownVariant name known =>
    "unknown variant " ++ ticked name ++ ", expected " ++ expectedNames known
  | .notOneMember => "invalid value: map, expected map with a single key"

/-- Why a document cannot be decoded. -/
inductive Problem where
  /-- The text is not JSON. -/
  | fault (f : Fault)
  /-- The value does not have the expected shape. -/
  | mismatch (m : Mismatch)
  deriving DecidableEq, Repr

/-- Where a document comes from. -/
inductive Origin where
  /-- A text, of which no more is read than is used. -/
  | text
  /-- A value, which is there as a whole. -/
  | value
  deriving DecidableEq, Repr

/-- A decoder, given the origin of the document and the number of arrays and objects that may still
be opened. -/
abbrev Decoder (α : Type) := Origin → Nat → Node → Except Problem α

namespace Decoder

variable {α : Type}

/-- The text is not JSON. -/
def fail (f : Fault) : Except Problem α := .error (.fault f)

/-- Refuses a document that is of another type than the expected one. -/
def refuse (expected : String) : Node → Except Problem α
  | .broken place => fail place.used
  | .null => .error (.mismatch (.wrongType .null expected))
  | .bool b => .error (.mismatch (.wrongType (.bool b) expected))
  | .number (.ok n) => .error (.mismatch (.wrongType (.number n) expected))
  | .number (.error f) => fail f
  | .string (.ok s) => .error (.mismatch (.wrongType (.string s) expected))
  | .string (.error f) => fail f
  | .array .. => .error (.mismatch (.wrongType .sequence expected))
  | .object .. => .error (.mismatch (.wrongType .map expected))
  | .keyless => .error (.mismatch (.wrongType .map expected))

/-- Passes if the array or object does not break off at its end. -/
def ended : Option Fault → Except Problem Unit
  | none => .ok ()
  | some f => fail f

/-! ## Scalars -/

/-- A string, which is called by the given words when it is missed. -/
def stringAs (expected : String) : Decoder String
  | _, _, .string (.ok s) => .ok s
  | _, _, node => refuse expected node

/-- A string. -/
def string : Decoder String := stringAs "a string"

/-- A path, written as a string. -/
def path : Decoder String := stringAs "path string"

/-- A truth value. -/
def bool : Decoder Bool
  | _, _, .bool b => .ok b
  | _, _, node => refuse "a boolean" node

/-- The null value. -/
def unit : Decoder Unit
  | _, _, .null => .ok ()
  | _, _, node => refuse "unit" node

/-- A value that may be null instead. -/
def optional (d : Decoder α) : Decoder (Option α)
  | _, _, .null => .ok none
  | origin, room, node => some <$> d origin room node

/-! ## Arrays and maps -/

/-- An array. -/
def list (d : Decoder α) : Decoder (List α)
  | _, 0, .array .. => fail .malformed
  | origin, room + 1, .array items ending => do
    let values ← items.mapM (d origin room)
    ended ending
    return values
  | _, _, node => refuse "a sequence" node

/-- The members of an object, in reading order. -/
def members (d : Decoder α) (origin : Origin) (room : Nat) :
    List (Except Fault String × Node) → Except Problem (List (String × α))
  | [] => .ok []
  | (.error f, _) :: _ => fail f
  | (.ok name, node) :: rest => do
    let value ← d origin room node
    let values ← members d origin room rest
    return (name, value) :: values

/-- The members of an object by ascending names; of equal names the last one wins. -/
def entries (d : Decoder α) : Decoder (List (String × α))
  | _, 0, .object .. => fail .malformed
  | _, _, .keyless => fail .malformed
  | origin, room + 1, .object ms ending => do
    let values ← members d origin room ms
    ended ending
    return Entries.ofList values
  | _, _, node => refuse "a map" node

/-- A map from names. -/
def nameMap (d : Decoder α) : Decoder (NameMap α)
  | _, 0, .object .. => fail .malformed
  | _, _, .keyless => fail .malformed
  | origin, room + 1, .object ms ending => do
    let values ← members d origin room ms
    ended ending
    return NameMap.ofList values
  | _, _, node => refuse "a map" node

/-! ## Variants -/

/-- The variant of a name. -/
def variantOf (variants : List (String × α)) (name : String) : Except Problem α :=
  match Entries.find? name variants with
  | some a => .ok a
  | none => .error (.mismatch (.unknownVariant name (Entries.names variants)))

/-- The variant that the first member of an object names. No other member may follow it, and its
value is null. -/
def variantMember (variants : List (String × α)) (room : Nat)
    (ms : List (Except Fault String × Node)) (ending : Option Fault) : Except Problem α :=
  match ms with
  | [] => do
    ended ending
    fail .malformed
  | (.error f, _) :: _ => fail f
  | (.ok name, node) :: rest => do
    let value ← variantOf variants name
    unit .text room node
    if !rest.isEmpty then fail .malformed
    ended ending
    return value

/-- One of several names, written as a string or as an object that has only this name, for null.
A text that starts with anything else is not read any further. -/
def variant (variants : List (String × α)) : Decoder α
  | _, _, .string (.ok name) => variantOf variants name
  | _, _, .string (.error f) => fail f
  | .text, _, .broken place => fail place.asString
  | .text, room + 1, .object ms ending => variantMember variants room ms ending
  | .text, _, _ => fail .malformed
  | .value, room, .object [(.ok name, node)] _ => do
    let value ← variantOf variants name
    unit .value room node
    return value
  | .value, _, .object .. => .error (.mismatch .notOneMember)
  | .value, _, node => refuse "string or map" node

/-! ## Any value -/

/-- Any value, of at most the given number of levels. -/
def anyWithin : Nat → Decoder Value
  | 0, _, _, _ => fail .malformed
  | levels + 1, origin, room, node =>
    match node with
    | .broken place => fail place.used
    | .null => .ok .null
    | .bool b => .ok (.bool b)
    | .number (.ok n) => .ok (.number n)
    | .number (.error f) => fail f
    | .string (.ok s) => .ok (.string s)
    | .string (.error f) => fail f
    | .array .. => .array <$> list (anyWithin levels) origin room node
    | .object .. => .object <$> entries (anyWithin levels) origin room node
    | .keyless => fail .malformed

/-- Any value. It cannot have more levels than there is room. -/
def any : Decoder Value := fun origin room node => anyWithin (room + 1) origin room node

end Decoder

/-! ## Records -/

/-- A field of a record that is filled in field by field. -/
structure Field (σ : Type) where
  /-- The name of the field in a document. -/
  name : String
  /-- Whether it has no default. -/
  required : Bool
  /-- Decodes a value and fills it in. -/
  fill : Origin → Nat → Node → σ → Except Problem σ

/-- A field with a default. -/
def Field.withDefault {σ α : Type} (name : String) (d : Decoder α) (set : α → σ → σ) : Field σ :=
  ⟨name, false, fun origin room node record => (set · record) <$> d origin room node⟩

/-- A field without a default. -/
def Field.withoutDefault {σ α : Type} (name : String) (d : Decoder α) (set : α → σ → σ) : Field σ :=
  ⟨name, true, fun origin room node record => (set · record) <$> d origin room node⟩

/-- The shape of a record. -/
structure Record (σ : Type) where
  /-- What the record is called in messages. -/
  name : String
  /-- The record with all its defaults. -/
  blank : σ
  /-- The fields, in the order in which an array holds them. -/
  fields : List (Field σ)
  /-- Whether other names are refused rather than skipped. -/
  closed : Bool

namespace Record

variable {σ : Type}

/-- Fills a record from the members of an object. Gives the names that were seen, too. -/
def fillMembers (r : Record σ) (origin : Origin) (room : Nat) (seen : List String) (record : σ) :
    List (Except Fault String × Node) → Except Problem (σ × List String)
  | [] => .ok (record, seen)
  | (.error f, _) :: _ => Decoder.fail f
  | (.ok name, node) :: rest =>
    match r.fields.find? (·.name = name) with
    | some field =>
      if name ∈ seen then .error (.mismatch (.duplicateField name))
      else do
        let record ← field.fill origin room node record
        fillMembers r origin room (name :: seen) record rest
    | none =>
      if r.closed then .error (.mismatch (.unknownField name (r.fields.map (·.name))))
      else do
        Decoder.ended node.skipFault?
        fillMembers r origin room seen record rest

/-- The problem of so many items where a record has fewer fields. In a text the closing bracket has
to follow the last field. -/
def surplus (length : Nat) : Origin → Problem
  | .text => .fault .malformed
  | .value => .mismatch (.surplusItems length)

/-- Fills a record from the items of an array. -/
def fillItems (r : Record σ) (origin : Origin) (room : Nat) (ending : Option Fault) (count : Nat)
    (record : σ) : List (Field σ) → List Node → Except Problem σ
  | [], [] => do
    Decoder.ended ending
    return record
  | [], _ :: nodes => .error (surplus (count + 1 + nodes.length) origin)
  | field :: fields, [] => do
    Decoder.ended ending
    if field.required then
      .error (.mismatch (.wrongLength count r.name r.fields.length))
    else fillItems r origin room ending (count + 1) record fields []
  | field :: fields, node :: nodes => do
    let record ← field.fill origin room node record
    fillItems r origin room ending (count + 1) record fields nodes

/-- The decoder of a record. -/
def decode (r : Record σ) : Decoder σ
  | _, 0, .array .. => Decoder.fail .malformed
  | _, 0, .object .. => Decoder.fail .malformed
  | _, _, .keyless => Decoder.fail .malformed
  | origin, room + 1, .array items ending =>
    r.fillItems origin room ending 0 r.blank r.fields items
  | origin, room + 1, .object ms ending => do
    let (record, seen) ← r.fillMembers origin room [] r.blank ms
    -- A missing field is noticed at the closing brace, so that a fault in front of it comes first.
    Decoder.ended ending
    match r.fields.find? fun field => field.required && !seen.contains field.name with
    | some field => .error (.mismatch (.missingField field.name))
    | none => return record
  | _, _, node => Decoder.refuse ("struct " ++ r.name) node

end Record

/-! ## Texts -/

/-- How deep the arrays and objects of a text that are used may be nested. -/
def deepest : Nat := 127

/-- Decodes a text. Something behind its value is a fault, but comes last. -/
def decodeText {α : Type} (d : Decoder α) (text : String) : Except Problem α := do
  let document := Document.read text
  let value ← d .text deepest document.root
  if document.trailing then Decoder.fail .malformed
  return value

/-- Decodes a value, however deep it is. -/
def decodeValue {α : Type} (d : Decoder α) (value : Value) : Except Problem α :=
  d .value value.depth (Node.ofValue value)

end EntityModel.Json
