import EntityModel.Json.Token

/-! # Reading JSON

The document of a token list. The open arrays and objects are kept on a stack; when the text breaks
off, they are closed around the broken place. -/

namespace EntityModel.Json

/-- An array or object that is still open, its items or members last first. -/
inductive Unclosed where
  /-- An array that waits for its next item. -/
  | array (items : List Node)
  /-- An object that waits for the value of a name. -/
  | object (members : List (Except Fault String × Node)) (name : Except Fault String)

namespace Unclosed

/-- The items of an array with the one it waited for. -/
def closeArray (items : List Node) (item : Node) (ending : Option Fault) : Node :=
  .array (item :: items).reverse ending

/-- The members of an object with the one it waited for. -/
def closeObject (members : List (Except Fault String × Node)) (name : Except Fault String)
    (value : Node) (ending : Option Fault) : Node :=
  .object ((name, value) :: members).reverse ending

/-- The document that breaks off with the node. -/
def breakOff (node : Node) : List Unclosed → Document
  | [] => ⟨node, false⟩
  | .array items :: outer => breakOff (closeArray items node none) outer
  | .object members name :: outer => breakOff (closeObject members name node none) outer

/-- The document that breaks off where a value or a colon has to stand. -/
def fail (fault : Fault) (enclosing : List Unclosed) : Document :=
  breakOff (.broken (.always fault)) enclosing

/-- The document that breaks off where the next name has to stand. -/
def failName (place : Break) (members : List (Except Fault String × Node)) (outer : List Unclosed) :
    Document :=
  breakOff (.broken place) (.object members (.error place.used) :: outer)

end Unclosed

namespace Document

open Unclosed

mutual

/-- Reads a value. -/
def value (enclosing : List Unclosed) : List Token → Document
  | [] => fail .truncated enclosing
  | .openArray :: .closeArray :: rest => afterValue enclosing (.array [] none) rest
  | .openArray :: rest => value (.array [] :: enclosing) rest
  | .openObject :: .closeObject :: rest => afterValue enclosing (.object [] none) rest
  | .openObject :: .quoted (.ok name) :: rest => afterName enclosing [] name rest
  | .openObject :: .quoted (.error place) :: _ => failName place [] enclosing
  | .openObject :: [] => breakOff (.object [] (some .truncated)) enclosing
  | .openObject :: _ :: _ => breakOff .keyless enclosing
  | .quoted (.ok content) :: rest => afterValue enclosing (.string content) rest
  | .quoted (.error place) :: _ => breakOff (.broken place) enclosing
  | .scalar node :: rest => afterValue enclosing node rest
  | _ :: _ => fail .malformed enclosing

/-- Reads what follows a value. -/
def afterValue (enclosing : List Unclosed) (node : Node) (tokens : List Token) : Document :=
  match enclosing with
  | [] => ⟨node, !tokens.isEmpty⟩
  -- A comma has to be followed by a value, so that none may stand in front of the closing bracket.
  | .array items :: outer =>
    match tokens with
    | .comma :: rest => value (.array (node :: items) :: outer) rest
    | .closeArray :: rest => afterValue outer (closeArray items node none) rest
    | [] => breakOff (closeArray items node (some .truncated)) outer
    | _ :: _ => breakOff (closeArray items node (some .malformed)) outer
  | .object members name :: outer =>
    match tokens with
    | .comma :: .quoted (.ok next) :: rest => afterName outer ((name, node) :: members) next rest
    | .comma :: .quoted (.error place) :: _ => failName place ((name, node) :: members) outer
    | .comma :: [] => failName (.always .truncated) ((name, node) :: members) outer
    | .comma :: _ :: _ => failName (.always .malformed) ((name, node) :: members) outer
    | .closeObject :: rest => afterValue outer (closeObject members name node none) rest
    | [] => breakOff (closeObject members name node (some .truncated)) outer
    | _ :: _ => breakOff (closeObject members name node (some .malformed)) outer

/-- Reads what follows the name of a member. -/
def afterName (outer : List Unclosed) (members : List (Except Fault String × Node))
    (name : Except Fault String) : List Token → Document
  | .colon :: rest => value (.object members name :: outer) rest
  | [] => fail .truncated (.object members name :: outer)
  | _ :: _ => fail .malformed (.object members name :: outer)

end

/-- The document of a text. -/
def read (text : String) : Document := value [] (Token.list text.toList)

end Document

end EntityModel.Json
