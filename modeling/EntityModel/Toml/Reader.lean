import EntityModel.Toml.Quoted
import EntityModel.Toml.Scalar
import EntityModel.Toml.Table

/-! # Reading TOML

A file is a list of statements, each at the end of its line: headers, and keys with their values.
Arrays and tables in braces are nested less than 80 deep, and a key has less than 80 parts. A reader
gives what it finds at the start of a text together with the text behind it. -/

namespace EntityModel.Toml

/-- How deep values are nested and how many parts a key has at most. -/
def deepest : Nat := 79

/-! ## Blanks -/

/-- The text behind the blanks of the line. -/
def skipBlanks (text : List Char) : List Char := text.dropWhile isBlank

/-- The text behind blanks, line breaks and comments. -/
def skipLines (inComment : Bool) : List Char → List Char
  | [] => []
  | '\n' :: rest => skipLines false rest
  | '\r' :: '\n' :: rest => skipLines false rest
  | c :: rest =>
    if inComment then if isPlain c then skipLines true rest else c :: rest
    else if isBlank c then skipLines false rest
    else if c = '#' then skipLines true rest
    else c :: rest

/-- The text behind the end of the line, in front of which there may be a comment. -/
def afterLine? (text : List Char) : Option (List Char) :=
  let text := skipBlanks text
  let text := if text.head? = some '#' then text.dropWhile isPlain else text
  if text = [] then some [] else afterBreak? text

/-! ## Keys -/

/-- Whether the character may stand in a key without quotes. -/
def isKeyChar (c : Char) : Bool := c.isAlphanum || c = '-' || c = '_'

/-- A part of a key. -/
def keyPart (text : List Char) : Option (String × List Char) := do
  match text with
  | '"' :: rest =>
    let (chars, rest) ← Quoted.line '"' rest
    return (String.ofList chars, rest)
  | '\'' :: rest =>
    let (chars, rest) ← Quoted.line '\'' rest
    return (String.ofList chars, rest)
  | _ =>
    let chars := text.takeWhile isKeyChar
    if chars = [] then none else return (String.ofList chars, text.drop chars.length)

/-- A key of at most so many parts, and the text behind the blanks that follow it. -/
def keyUpTo : Nat → List Char → Option (List String × List Char)
  | 0, _ => none
  | count + 1, text => do
    let (part, rest) ← keyPart (skipBlanks text)
    match skipBlanks rest with
    | '.' :: rest =>
      let (parts, rest) ← keyUpTo count rest
      return (part :: parts, rest)
    | rest => return ([part], rest)

/-- A key, and the text behind the blanks that follow it. -/
def key (text : List Char) : Option (List String × List Char) := keyUpTo deepest text

/-- A key with its value, given the reader of the value. -/
def member (value : List Char → Option (Value × List Char)) (text : List Char) :
    Option ((List String × Value) × List Char) := do
  let (path, rest) ← key text
  match rest with
  | '=' :: rest =>
    let (v, rest) ← value (skipBlanks rest)
    return ((path, v), rest)
  | _ => none

/-! ## Values -/

/-- At most so many items of an array and its closing bracket. A comma may follow the last item. -/
def itemsUpTo (value : List Char → Option (Value × List Char)) :
    Nat → List Char → Option (List Value × List Char)
  | 0, _ => none
  | count + 1, text =>
    match skipLines false text with
    | ']' :: rest => some ([], rest)
    | text => do
      let (v, rest) ← value text
      match skipLines false rest with
      | ']' :: rest => return ([v], rest)
      | ',' :: rest =>
        let (vs, rest) ← itemsUpTo value count rest
        return (v :: vs, rest)
      | _ => none

/-- At most so many members of a table in braces and its closing brace. -/
def membersUpTo (value : List Char → Option (Value × List Char)) :
    Nat → List Char → Option (List (List String × Value) × List Char)
  | 0, _ => none
  | count + 1, text => do
    let (m, rest) ← member value text
    match skipBlanks rest with
    | '\x7d' :: rest => return ([m], rest)
    | ',' :: rest =>
      let (ms, rest) ← membersUpTo value count rest
      return (m :: ms, rest)
    | _ => none

/-- The members of a table behind its opening brace. -/
def members (value : List Char → Option (Value × List Char)) (text : List Char) :
    Option (List (List String × Value) × List Char) :=
  match skipBlanks text with
  | '\x7d' :: rest => some ([], rest)
  | text => membersUpTo value text.length text

/-- A value with at most so many levels of arrays and tables in it. -/
def valueWithin : Nat → List Char → Option (Value × List Char)
  | _, '"' :: rest => do
    let (chars, rest) ← Quoted.string '"' rest
    return (.string (String.ofList chars), rest)
  | _, '\'' :: rest => do
    let (chars, rest) ← Quoted.string '\'' rest
    return (.string (String.ofList chars), rest)
  | 0, text => Scalar.read? text
  | levels + 1, '[' :: rest => do
    let (items, rest) ← itemsUpTo (valueWithin levels) rest.length rest
    return (.array false items, rest)
  | levels + 1, '\x7b' :: rest => do
    let (ms, rest) ← members (valueWithin levels) rest
    return (← Table.ofMembers? ms, rest)
  | _ + 1, text => Scalar.read? text

/-- A value. -/
def value (text : List Char) : Option (Value × List Char) := valueWithin deepest text

/-! ## Statements -/

/-- A statement of a file. -/
inductive Statement where
  /-- The header of a table. -/
  | table (path : List String)
  /-- The header of an item of an array of tables. -/
  | item (path : List String)
  /-- A key and its value. -/
  | entry (path : List String) (value : Value)

/-- A statement, without the end of its line. -/
def statement (text : List Char) : Option (Statement × List Char) := do
  match text with
  | '[' :: '[' :: rest =>
    let (path, rest) ← key rest
    match rest with
    | ']' :: ']' :: rest => return (.item path, rest)
    | _ => none
  | '[' :: rest =>
    let (path, rest) ← key rest
    match rest with
    | ']' :: rest => return (.table path, rest)
    | _ => none
  | _ =>
    let ((path, v), rest) ← member value text
    return (.entry path v, rest)

/-- At most so many statements, to the end of the text. -/
def statementsUpTo : Nat → List Char → Option (List Statement)
  | count, text =>
    match skipLines false text with
    | [] => some []
    | text =>
      match count with
      | 0 => none
      | count + 1 => do
        let (s, rest) ← statement text
        return s :: (← statementsUpTo count (← afterLine? rest))

/-- The statements of a text. Every statement takes a character at least. -/
def statements (text : List Char) : Option (List Statement) := statementsUpTo text.length text

/-! ## Files -/

/-- The table under the last header, and all tables so far. -/
structure State where
  /-- The path of the last header. -/
  path : List String
  /-- The outermost table. -/
  entries : List (String × Value)

/-- Takes in a statement. -/
def State.take (s : State) : Statement → Option State
  | .table path => do return ⟨path, ← Table.alter Table.openTable path s.entries⟩
  | .item path => do return ⟨path, ← Table.alter Table.openItem path s.entries⟩
  | .entry path value => do
    return ⟨s.path, ← Table.extend (Table.define value path) s.path s.entries⟩

/-- The byte order mark, which may stand in front of a text. -/
def byteOrderMark : Char := '\ufeff'

/-- The table of a text, if the text is well formed. -/
def parse? (text : String) : Option Value := do
  let chars :=
    match text.toList with
    | c :: rest => if c = byteOrderMark then rest else c :: rest
    | [] => []
  let final ← (← statements chars).foldlM State.take ⟨[], []⟩
  return .table .header final.entries

end EntityModel.Toml
