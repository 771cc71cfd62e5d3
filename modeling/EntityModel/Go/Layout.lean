import EntityModel.Go.Source
import EntityModel.Text.Blank
import EntityModel.Text.Fields
import EntityModel.Text.Lines

/-! # The layout of Go source

Generated code marks the points at which lines are aligned with a cell separator. Layout checks that
brackets and literals are closed, and then aligns every run of lines with cells: each cell but the
last of its line is padded to the widest cell of its column and one blank. Of several blank lines
one is kept, and none at the start or the end. -/

namespace EntityModel.Go

/-! ## Brackets and literals -/

/-- What a scan of a line can stumble on. -/
inductive Mark where
  /-- A bracket in code. -/
  | bracket (c : Char)
  /-- A literal that does not end on the line. -/
  | unterminated (literal : Literal)
  deriving DecidableEq, Repr

/-- What follows the closing quote of a string. A backslash takes the next character with it. -/
def afterString : List Char → Option (List Char)
  | [] => none
  | '"' :: rest => some rest
  | '\\' :: [] => none
  | '\\' :: _ :: rest => afterString rest
  | _ :: rest => afterString rest

/-- What follows the closing quote of a raw string. -/
def afterRawString : List Char → Option (List Char)
  | [] => none
  | c :: rest => if c = '\x60' then some rest else afterRawString rest

/-- Behind the end of a literal there is less text than from its start. -/
theorem length_of_afterString {text rest : List Char} (h : afterString text = some rest) :
    rest.length < text.length := by
  fun_induction afterString text <;> grind

/-- Behind the end of a raw literal there is less text than from its start. -/
theorem length_of_afterRawString {text rest : List Char} (h : afterRawString text = some rest) :
    rest.length < text.length := by
  fun_induction afterRawString text <;> grind

/-- The brackets. -/
def brackets : List Char := ['(', ')', '[', ']', '\x7b', '\x7d']

/-- The marks of a line, up to a comment or a literal that does not end. -/
def marks : List Char → List Mark
  | [] => []
  | c :: rest =>
    if c = '/' ∧ rest.head? = some '/' then []
    else if c = '"' then
      match _h : afterString rest with
      | some rest => marks rest
      | none => [.unterminated .interpreted]
    else if c = '\x60' then
      match _h : afterRawString rest with
      | some rest => marks rest
      | none => [.unterminated .raw]
    else if brackets.contains c then .bracket c :: marks rest
    else marks rest
termination_by text => text.length
decreasing_by
  · have := length_of_afterString _h; simp; omega
  · have := length_of_afterRawString _h; simp; omega
  · simp
  · simp

/-- The bracket that a closing bracket closes. -/
def opening? (c : Char) : Option Char :=
  if c = ')' then some '('
  else if c = ']' then some '['
  else if c = '\x7d' then some '\x7b'
  else none

/-- Checks the marks of a text, each with its line, against the brackets that are open, the
innermost first. -/
def balanced (stack : List (Char × Nat)) : List (Mark × Nat) → Except SourceError Unit
  | [] =>
    match stack with
    | [] => .ok ()
    | (c, line) :: _ => .error (.unbalanced line c)
  | (.unterminated literal, _) :: _ => .error (.unterminated literal)
  | (.bracket c, line) :: rest =>
    match opening? c with
    | none => balanced ((c, line) :: stack) rest
    | some opening =>
      match stack with
      | (top, _) :: stack =>
        if top = opening then balanced stack rest else .error (.unbalanced line c)
      | [] => .error (.unbalanced line c)

/-- The marks of numbered lines. -/
def numberedMarks (line : Nat) : List (List Char) → List (Mark × Nat)
  | [] => []
  | text :: rest => (marks text).map (·, line) ++ numberedMarks (line + 1) rest

/-- Passes if all brackets and literals are closed. -/
def checkDelimiters (lines : List (List Char)) : Except SourceError Unit :=
  balanced [] (numberedMarks 1 lines)

/-! ## Alignment -/

/-- The separator of cells. -/
def cell : Char := '\x0b'

/-- A line of cells. -/
structure Row where
  /-- The tabs in front. -/
  indent : List Char
  /-- The cells without blanks around them. -/
  cells : List (List Char)
  deriving DecidableEq, Repr

/-- The row of a line. -/
def Row.ofLine (line : List Char) : Row :=
  ⟨line.takeWhile (· = '\t'), (Text.fields (· = cell) (line.dropWhile (· = '\t'))).map Text.trim⟩

/-- The width of a cell that another cell follows. -/
def Row.paddedWidth (row : Row) (column : Nat) : Nat :=
  if column + 1 < row.cells.length then (row.cells.getD column []).length else 0

/-- The width of a column: its widest cell that another cell follows. -/
def columnWidth (rows : List Row) (column : Nat) : Nat :=
  (rows.map (·.paddedWidth column)).foldl max 0

/-- The cells from a column on, each but the last padded to one blank more than the column's
width. -/
def padCells (width : Nat → Nat) (column : Nat) : List (List Char) → List Char
  | [] => []
  | [last] => last
  | text :: rest =>
    text ++ List.replicate (width column + 1 - text.length) ' ' ++ padCells width (column + 1) rest

/-- The line of a row. -/
def Row.line (width : Nat → Nat) (row : Row) : List Char :=
  Text.trimEnd (row.indent ++ padCells width 0 row.cells)

/-- The lines of a run of rows. -/
def align (rows : List Row) : List (List Char) := rows.map (·.line (columnWidth rows))

/-! ## Runs of lines -/

/-- A line without cells, or a longest run of lines with cells. -/
inductive Run where
  /-- A line without cells. -/
  | plain (line : List Char)
  /-- Lines with cells. -/
  | table (rows : List Row)
  deriving DecidableEq, Repr

/-- The runs of a text. -/
def runs : List (List Char) → List Run
  | [] => []
  | line :: rest =>
    if line.contains cell then
      match runs rest with
      | .table rows :: more => .table (Row.ofLine line :: rows) :: more
      | more => .table [Row.ofLine line] :: more
    else .plain line :: runs rest

/-- The lines of runs. A blank line is left out if nothing stands before it, or a blank line after
the last other line without cells. -/
def arrange (atStart afterBlank : Bool) : List Run → List (List Char)
  | [] => []
  -- Lines with cells are no end to a row of blank lines that started before them.
  | .table rows :: rest => align rows ++ arrange (atStart && rows.isEmpty) afterBlank rest
  | .plain line :: rest =>
    let line := Text.trimEnd line
    if !line.isEmpty then line :: arrange false false rest
    else if afterBlank || atStart then arrange atStart true rest
    else [] :: arrange false true rest

/-- The lines without the blank ones at the end. -/
def dropTrailingBlank (lines : List (List Char)) : List (List Char) :=
  (lines.reverse.dropWhile List.isEmpty).reverse

/-- Lays out a text. There is at least one line. -/
def layoutLines (lines : List (List Char)) : List (List Char) :=
  match dropTrailingBlank (arrange true false (runs lines)) with
  | [] => [[]]
  | lines => lines

/-- Checks and lays out source code. -/
def layout (source : String) : Except SourceError String := do
  let lines := Text.lines source.toList
  checkDelimiters lines
  return String.ofList (Text.unlines (layoutLines lines))

end EntityModel.Go
