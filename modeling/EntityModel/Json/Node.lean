import EntityModel.Json.Value

/-! # Documents as they are read

A text is read as JSON up to the first place where it stops being JSON, and that place is kept in
the tree as a `broken` node. So whoever walks the tree in reading order meets either a value that
does not fit or the broken place, whichever stands first in the text.

A value may be *used* or *skipped*. Skipping is more lenient: it does not look at the value of a
number or at the surrogate halves in a string. It also reports a number that the end of the text
cuts off as malformed. -/

namespace EntityModel.Json

/-- Why a text is not JSON. -/
inductive Fault where
  /-- Something stands where it cannot stand. -/
  | malformed
  /-- The text ends too early. -/
  | truncated
  deriving DecidableEq, Repr

/-- The fault of a broken place, by what the reader does with the value. -/
structure Break where
  /-- The fault when the value is used. -/
  used : Fault
  /-- The fault when the value is skipped. -/
  skipped : Fault
  /-- The fault when only a string will do, so that nothing else is looked at. -/
  asString : Fault
  deriving DecidableEq, Repr

/-- A broken place with the same fault for every reader. -/
def Break.always (fault : Fault) : Break := ⟨fault, fault, fault⟩

/-- A broken place inside something other than a string. -/
def Break.inScalar (used skipped : Fault) : Break := ⟨used, skipped, .malformed⟩

/-- A document as far as it can be read. -/
inductive Node where
  /-- The text breaks off here. -/
  | broken (place : Break)
  /-- The null value. -/
  | null
  /-- A truth value. -/
  | bool (b : Bool)
  /-- A number, or the fault of using it. -/
  | number (value : Except Fault Number)
  /-- A string, or the fault of using it. -/
  | string (value : Except Fault String)
  /-- An array, and the fault if it breaks off behind an item. -/
  | array (items : List Node) (ending : Option Fault)
  /-- An object with its names, or the faults of using them, and the fault if it breaks off behind
  a member. -/
  | object (members : List (Except Fault String × Node)) (ending : Option Fault)
  /-- An object that starts with something other than a name. -/
  | keyless

namespace Node

mutual

/-- The first fault that a reader finds who skips the value. -/
def skipFault? : Node → Option Fault
  | .broken place => some place.skipped
  | .array items ending => (skipItems? items).or ending
  | .object members ending => (skipMembers? members).or ending
  | .keyless => some .malformed
  | _ => none

/-- The first fault in the skipped items. -/
def skipItems? : List Node → Option Fault
  | [] => none
  | item :: rest => item.skipFault?.or (skipItems? rest)

/-- The first fault in the skipped members. -/
def skipMembers? : List (Except Fault String × Node) → Option Fault
  | [] => none
  | (_, value) :: rest => value.skipFault?.or (skipMembers? rest)

end

mutual

/-- A value as a document without faults. -/
def ofValue : Value → Node
  | .null => .null
  | .bool b => .bool b
  | .number n => .number (.ok n)
  | .string s => .string (.ok s)
  | .array items => .array (ofItems items) none
  | .object members => .object (ofMembers members) none

/-- The items of an array as documents. -/
def ofItems : List Value → List Node
  | [] => []
  | item :: rest => ofValue item :: ofItems rest

/-- The members of an object as documents. -/
def ofMembers : List (String × Value) → List (Except Fault String × Node)
  | [] => []
  | (name, value) :: rest => (.ok name, ofValue value) :: ofMembers rest

end

end Node

/-- A whole text: its value, and whether something stands behind it. -/
structure Document where
  /-- The value. -/
  root : Node
  /-- Whether more than blanks follows the value. -/
  trailing : Bool

end EntityModel.Json
