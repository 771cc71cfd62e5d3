import EntityModel.Schema.Basic
import EntityModel.Text.Quoted

/-! # State machines

The state machine of an entity has to agree with the enumeration that it names: the enumeration
exists, and the initial state, if there is one, and the terminal states are values of it. -/

namespace EntityModel

/-- How a state machine disagrees with its enumeration. -/
inductive StateError where
  /-- The enumeration does not exist. -/
  | unknownEnum (entity enumeration : String)
  /-- The initial state is not a value of the enumeration. -/
  | initialNotInEnum (entity enumeration state : String)
  /-- A terminal state is not a value of the enumeration. -/
  | terminalNotInEnum (entity enumeration state : String)
  deriving DecidableEq, Repr

/-- The message of an error. -/
def StateError.message : StateError → String
  | .unknownEnum entity enumeration =>
    "entity " ++ Text.quoted entity ++ ": states reference unknown enum " ++ Text.quoted enumeration
  | .initialNotInEnum entity enumeration state =>
    "entity " ++ Text.quoted entity ++ ": initial state " ++ Text.quoted state ++
      " is not a value of enum " ++ Text.quoted enumeration
  | .terminalNotInEnum entity enumeration state =>
    "entity " ++ Text.quoted entity ++ ": terminal state " ++ Text.quoted state ++
      " is not a value of enum " ++ Text.quoted enumeration

namespace StateMachine

/-- Checks the state machine of an entity against the enumerations. -/
def check (enums : NameMap Enumeration) (entity : String) (states : StateMachine) :
    Except StateError Unit :=
  match enums.find? states.enumeration with
  | none => .error (.unknownEnum entity states.enumeration)
  | some enumeration =>
    if !states.initial.isEmpty && !enumeration.contains states.initial then
      .error (.initialNotInEnum entity states.enumeration states.initial)
    else
      match states.terminal.find? (!enumeration.contains ·) with
      | some state => .error (.terminalNotInEnum entity states.enumeration state)
      | none => .ok ()

end StateMachine

namespace Schema

/-- Checks the state machines of entities, in their order. -/
def checkStates (enums : NameMap Enumeration) : List (String × Entity) → Except StateError Unit
  | [] => .ok ()
  | (name, entity) :: rest =>
    match entity.states with
    | none => checkStates enums rest
    | some states =>
      match states.check enums name with
      | .error e => .error e
      | .ok () => checkStates enums rest

/-- Passes if every state machine agrees with its enumeration. -/
def validateStates (s : Schema) : Except StateError Unit := checkStates s.enums s.entities.entries

end Schema

end EntityModel
