import EntityModel.Text.Control
import EntityModel.Text.Hex
import EntityModel.Text.Letter
import EntityModel.Text.Quoted

/-! # Go source

The lexical rules of generated Go code: what may be declared as an identifier, how a text becomes a
string literal, and what is wrong with code that cannot be laid out. -/

namespace EntityModel.Go

/-! ## Faults of source code -/

/-- The literals that may lack their end. -/
inductive Literal where
  /-- A string between double quotes. -/
  | interpreted
  /-- A string between backquotes. -/
  | raw
  deriving DecidableEq, Repr

/-- What a literal is called. -/
def Literal.name : Literal → String
  | .interpreted => "string"
  | .raw => "raw string"

/-- Why source code is refused. -/
inductive SourceError where
  /-- A bracket of the line has no partner. -/
  | unbalanced (line : Nat) (delimiter : Char)
  /-- A literal does not end on its line. -/
  | unterminated (literal : Literal)
  /-- A name cannot be declared. -/
  | notIdentifier (name : String)
  deriving DecidableEq, Repr

/-- The message of an error. -/
def SourceError.message : SourceError → String
  | .unbalanced line delimiter =>
    "line " ++ toString line ++ ": unbalanced " ++ Text.quotedChar delimiter
  | .unterminated literal => "unterminated " ++ literal.name ++ " literal"
  | .notIdentifier name => Text.quoted name ++ " is not a valid identifier"

/-! ## Identifiers -/

/-- The reserved words. -/
def keywords : List String :=
  ["break", "case", "chan", "const", "continue", "default", "defer", "else", "fallthrough", "for",
    "func", "go", "goto", "if", "import", "interface", "map", "package", "range", "return",
    "select", "struct", "switch", "type", "var"]

/-- Whether an identifier may start with the character. -/
def isIdentifierStart (c : Char) : Bool := c = '_' || Text.isAlphabetic c

/-- Whether an identifier may go on with the character. -/
def isIdentifierPart (c : Char) : Bool := c = '_' || Text.isAlphanumeric c

/-- Whether the name can be declared. -/
def isIdentifier (name : String) : Bool :=
  match name.toList with
  | [] => false
  | first :: rest => isIdentifierStart first && rest.all isIdentifierPart && !keywords.contains name

/-- The name, if it can be declared. -/
def identifier (name : String) : Except SourceError String :=
  if isIdentifier name then .ok name else .error (.notIdentifier name)

/-- Exactly the identifiers pass, and pass as they are. -/
theorem identifier_eq_ok_iff {name result : String} :
    identifier name = .ok result ↔ isIdentifier name = true ∧ result = name := by
  by_cases h : isIdentifier name <;> simp [identifier, h, eq_comm]

/-! ## String literals -/

/-- The written form of a character inside a string literal. -/
def escape (c : Char) : List Char :=
  if c = '"' then ['\\', '"']
  else if c = '\\' then ['\\', '\\']
  else if c = '\n' then ['\\', 'n']
  else if c = '\r' then ['\\', 'r']
  else if c = '\t' then ['\\', 't']
  else if Text.isControl c then '\\' :: 'u' :: Text.fixedHex 4 c.toNat
  else [c]

/-- The characters of the literal of a text. -/
def quoteChars (text : List Char) : List Char := '"' :: text.flatMap escape ++ ['"']

/-- The string literal of a text. -/
def quote (text : String) : String := String.ofList (quoteChars text.toList)

end EntityModel.Go
