import EntityModel.Sql.Lexeme
import EntityModel.Text.Blank

/-! # Statements of a script

A script is cut at the semicolons that are lexemes of their own. A statement is the text between two
cuts without the blanks around it; a piece that holds only comments and blanks is none. -/

namespace EntityModel.Sql

/-- The lexemes in front of each semicolon, and those behind the last one. -/
def pieces : List Lexeme → List (List Lexeme) × List Lexeme
  | [] => ([], [])
  | .semicolon :: rest => ([] :: (pieces rest).1, (pieces rest).2)
  | lexeme :: rest =>
    match pieces rest with
    | ([], last) => ([], lexeme :: last)
    | (piece :: more, last) => ((lexeme :: piece) :: more, last)

/-- Whether a piece holds more than comments and blanks. -/
def hasCode (piece : List Lexeme) : Bool := piece.any Lexeme.isCode

/-- The text of a piece without the blanks around it. -/
def pieceText (piece : List Lexeme) : List Char := Text.trim (piece.flatMap Lexeme.text)

/-- The statement behind the last semicolon, if there is one. -/
def lastStatement (piece : List Lexeme) : List (List Char) :=
  if hasCode piece && !(pieceText piece).isEmpty then [pieceText piece] else []

/-- The statements of a list of lexemes. -/
def statementsOf (lexemes : List Lexeme) : List (List Char) :=
  ((pieces lexemes).1.filter hasCode).map pieceText ++ lastStatement (pieces lexemes).2

/-- The statements of a script, without the semicolons that end them. -/
def splitStatements (script : String) : List String :=
  (statementsOf (Lexeme.list script.toList)).map String.ofList

/-- No lexemes make no whole piece and an empty rest. -/
@[simp] theorem pieces_nil : pieces [] = ([], []) := rfl

/-- A semicolon ends a piece. -/
@[simp] theorem pieces_semicolon (rest : List Lexeme) :
    pieces (.semicolon :: rest) = ([] :: (pieces rest).1, (pieces rest).2) := rfl

end EntityModel.Sql
