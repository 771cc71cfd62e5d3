import EntityModel.Proofs.Yaml.Numbers
import EntityModel.Text.Lines

/-! # Reading YAML

The documents in block style that this library writes are read back: one entry to a line, two blanks
for every level, items behind `-` and members behind their names and `:`. A name is plain or stands
in double quotes. Behind an entry stands a scalar, or nothing if its value has lines of its own on
the next level. -/

namespace EntityModel.Yaml

/-- A value as it stands in a document, where a number is the text that is written for it. -/
inductive Node where
  /-- The null value. -/
  | null
  /-- A truth value. -/
  | bool (b : Bool)
  /-- A number. -/
  | number (text : String)
  /-- A string. -/
  | string (s : String)
  /-- An array. -/
  | array (items : List Node)
  /-- An object. -/
  | object (members : List (String × Node))

/-! ## Scalars -/

/-- The character that a letter behind a backslash stands for. -/
def unescape? : Char → Option Char
  | '"' => some '"'
  | '\\' => some '\\'
  | 'n' => some '\n'
  | 'r' => some '\r'
  | 't' => some '\t'
  | _ => none

/-- The character with the code that the hexadecimal digits write. -/
def charOfHex? (digits : List Char) : Option Char := do
  let code ← Text.readHex? digits
  if code.isValidChar then some (Char.ofNat code) else none

/-- The text up to the closing quote, and what follows the quote. -/
def readQuoted : List Char → Option (List Char × List Char)
  | [] => none
  | '"' :: rest => some ([], rest)
  | '\\' :: 'u' :: a :: b :: c :: d :: rest => do
    let code ← charOfHex? [a, b, c, d]
    let (text, behind) ← readQuoted rest
    some (code :: text, behind)
  | '\\' :: letter :: rest => do
    let c ← unescape? letter
    let (text, behind) ← readQuoted rest
    some (c :: text, behind)
  | ['\\'] => none
  | c :: rest => do
    let (text, behind) ← readQuoted rest
    some (c :: text, behind)

/-- The value of a word. -/
def word? : String → Option Node
  | "null" => some .null
  | "true" => some (.bool true)
  | "false" => some (.bool false)
  | "[]" => some (.array [])
  | "\x7b\x7d" => some (.object [])
  | _ => none

/-- The value of a scalar. -/
def scalar? : List Char → Option Node
  | '"' :: rest =>
    match readQuoted rest with
    | some (text, []) => some (.string (String.ofList text))
    | _ => none
  | text =>
    if isNumberScalar text then some (.number (String.ofList text)) else word? (String.ofList text)

/-! ## Entries -/

/-- What an entry of a block stands for. -/
inductive Head where
  /-- An item of an array. -/
  | item
  /-- The member of an object with the name. -/
  | member (name : String)

/-- The head of an entry, and the text behind it. -/
def readHead? : List Char → Option (Head × List Char)
  | '-' :: behind => some (.item, behind)
  | '"' :: rest =>
    match readQuoted rest with
    | some (name, ':' :: behind) => some (.member (String.ofList name), behind)
    | _ => none
  | text =>
    match text.dropWhile isPlainPart with
    | ':' :: behind =>
      let name := String.ofList (text.takeWhile isPlainPart)
      if isPlainName name then some (.member name, behind) else none
    | _ => none

/-- The items of an array, if all entries are items. -/
def items? (entries : List (Head × Node)) : Option (List Node) :=
  entries.mapM fun
    | (.item, node) => some node
    | _ => none

/-- The members of an object, if all entries are members. -/
def members? (entries : List (Head × Node)) : Option (List (String × Node)) :=
  entries.mapM fun
    | (.member name, node) => some (name, node)
    | _ => none

/-- The value of a block. There is none without entries or with entries of both kinds. -/
def ofEntries? : List (Head × Node) → Option Node
  | [] => none
  | entries => ((items? entries).map .array).or ((members? entries).map .object)

/-- The value of an entry: a scalar behind its head, or the entries on the lines below. -/
def entryValue? (behind : List Char) (below : List Line) (entries : Option (List (Head × Node))) :
    Option Node :=
  match behind, below with
  | [], _ => entries.bind ofEntries?
  | ' ' :: text, [] => scalar? text
  | _, _ => none

/-- The entries on the lines of a block of the level. -/
def entries? (level : Nat) : List Line → Option (List (Head × Node))
  | [] => some []
  | line :: rest =>
    if line.level = level then do
      let (head, behind) ← readHead? line.text.toList
      -- The lines below the entry, up to the next one of the level.
      let below := rest.takeWhile fun l => level < l.level
      let node ← entryValue? behind below (entries? (level + 1) below)
      let others ← entries? level (rest.dropWhile fun l => level < l.level)
      some ((head, node) :: others)
    else none
termination_by lines => lines.length
decreasing_by
  · exact Nat.lt_succ_of_le (List.takeWhile_sublist _).length_le
  · exact Nat.lt_succ_of_le (List.dropWhile_sublist _).length_le

/-! ## Documents -/

/-- The line of a text: two blanks for every level, and what follows them. -/
def readLine? (text : List Char) : Option Line :=
  let blanks := (text.takeWhile (· = ' ')).length
  if blanks % 2 = 0 then some ⟨blanks / 2, String.ofList (text.dropWhile (· = ' '))⟩ else none

/-- The value on the lines: the entries of a block, or one scalar. -/
def ofLines? (ls : List Line) : Option Node :=
  let scalar :=
    match ls with
    | [⟨0, text⟩] => scalar? text.toList
    | _ => none
  ((entries? 0 ls).bind ofEntries?).or scalar

/-- The value of a document. -/
def decode (text : String) : Option Node := do
  let ls ← (Text.lines text.toList).mapM readLine?
  ofLines? ls

end EntityModel.Yaml
