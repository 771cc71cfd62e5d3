import EntityModel.GenerateError
import EntityModel.Naming
import EntityModel.Types.Resolve

/-! # Go types

The Go types of properties. A definition with members of which some are required has a named type of
its own, whatever its type is; every other definition stands for the type behind it. A definition
that is an array of itself has no Go type: whoever looks for it comes to no end. -/

namespace EntityModel

namespace Go

/-- A Go type. -/
inductive GoType where
  /-- Text. -/
  | string
  /-- Whole numbers. -/
  | int
  /-- Numbers. -/
  | float64
  /-- Truth values. -/
  | bool
  /-- Points in time. -/
  | time
  /-- Anything. -/
  | any
  /-- Objects without a type of their own. -/
  | anyMap
  /-- A type that is declared in the same file. -/
  | named (name : String)
  /-- Lists. -/
  | slice (items : GoType)
  /-- A value that may be missing. -/
  | pointer (value : GoType)
  deriving DecidableEq, Repr

namespace GoType

/-- The text of a type. -/
def text : GoType → String
  | .string => "string"
  | .int => "int"
  | .float64 => "float64"
  | .bool => "bool"
  | .time => "time.Time"
  | .any => "any"
  | .anyMap => "map[string]any"
  | .named name => name
  | .slice items => "[]" ++ items.text
  | .pointer value => "*" ++ value.text

/-- Whether the type mentions points in time. -/
def usesTime : GoType → Bool
  | .time => true
  | .slice items => items.usesTime
  | .pointer value => value.usesTime
  | _ => false

/-- Whether the type has a value for what is missing. -/
def hasEmptyValue : GoType → Bool
  | .slice _ | .pointer _ | .anyMap => true
  | _ => false

/-- The type of a field. A field that need not be there is a pointer, unless its type has a value
for what is missing. -/
def forField (type : GoType) (required : Bool) : GoType :=
  if required || type.hasEmptyValue then type else .pointer type

end GoType

/-- Whether the definition has a type of its own. -/
def isStructDefinition (p : Property) : Bool := !p.properties.isEmpty && !p.required.isEmpty

/-- Whether there is a definition of the name that has a type of its own. -/
def hasStruct (v : Vocabulary) (name : String) : Bool :=
  (v.definitions.find? name).any isStructDefinition

/-- The type of a primitive type. -/
def primitiveType (p : Primitive) : GoType :=
  if p.isChronological then .time
  else
    match p.kind with
    | .string => .string
    | .integer => .int
    | .number => .float64
    | .boolean => .bool

end Go

/-- Looks for the Go type of a type. Behind a definition without a type of its own this goes on with
the type of what is behind it, so that it comes to no end (`none`) for an array of itself. -/
def Vocabulary.goType? (v : Vocabulary) : SemanticType → Option (Except ResolveError Go.GoType)
  | .primitive p => some (.ok (Go.primitiveType p))
  | .enumeration name => some (.ok (.named (Naming.camel name)))
  | .definition name =>
    match WellKnown.ofDefinition? name with
    | some known => some (.ok (if known.isIdentifier then .string else .time))
    | none =>
      if Go.hasStruct v name then some (.ok (.named (Naming.camel name)))
      else
        match v.underlying (.definition name) with
        | .error e => some (.error e)
        | .ok type => v |>.goType? type
  | .array items => do
    let type ← v |>.goType? items
    return .slice <$> type
  | .object _ => some (.ok .anyMap)
  | .any => some (.ok .any)
partial_fixpoint

namespace Go

/-- The Go type of a type. -/
def typeOf (v : Vocabulary) (type : SemanticType) : Except TypeError GoType :=
  match v.goType? type with
  | some outcome => outcome.mapError .unresolved
  | none => .error .endless

/-- The Go type of a field that holds a property. -/
def fieldType (v : Vocabulary) (p : Property) (required : Bool) : Except TypeError GoType := do
  let type ← (v.resolve p).mapError .unresolved
  let type ← typeOf v type
  return type.forField required

end Go

end EntityModel
