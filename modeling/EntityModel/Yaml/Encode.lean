import EntityModel.Json.Value
import EntityModel.Text.Control
import EntityModel.Text.Hex

/-! # YAML

Values as YAML documents in block style: one entry to a line, two blanks for every level, members in
ascending order of names. Strings always stand in double quotes. Names stand in double quotes unless
they are plain words that nobody takes for a number or a truth value. Empty arrays and objects are
written in line. -/

namespace EntityModel.Yaml

open Json

/-! ## Strings -/

/-- The written form of a character inside double quotes. -/
def escape (c : Char) : List Char :=
  if c = '"' then ['\\', '"']
  else if c = '\\' then ['\\', '\\']
  else if c = '\n' then ['\\', 'n']
  else if c = '\r' then ['\\', 'r']
  else if c = '\t' then ['\\', 't']
  else if Text.isControl c || c = '\u2028' || c = '\u2029' then
    '\\' :: 'u' :: Text.upperHex (Text.fixedHex 4 c.toNat)
  else [c]

/-- The characters of the scalar of a text. -/
def quoteChars (text : List Char) : List Char := '"' :: text.flatMap escape ++ ['"']

/-- The scalar of a text. -/
def quote (text : String) : String := String.ofList (quoteChars text.toList)

/-! ## Names -/

/-- Whether the text is an exponent, from its letter on, or empty. -/
def isExponent : List Char → Bool
  | [] => true
  | c :: rest =>
    (c = 'e' || c = 'E') &&
      let digits :=
        match rest with
        | '+' :: digits => digits
        | '-' :: digits => digits
        | _ => rest
      !digits.isEmpty && digits.all Char.isDigit

/-- Whether the text is a number without its sign: digits with at most one point among them and at
least one digit, and an exponent or none. -/
def isUnsignedNumber (text : List Char) : Bool :=
  let whole := text.takeWhile Char.isDigit
  match text.dropWhile Char.isDigit with
  | '.' :: rest =>
    (!whole.isEmpty || !(rest.takeWhile Char.isDigit).isEmpty) &&
      isExponent (rest.dropWhile Char.isDigit)
  | rest => !whole.isEmpty && isExponent rest

/-- The words for numbers that are not finite, in lower case. -/
def numberWords : List (List Char) :=
  [['i', 'n', 'f'], ['i', 'n', 'f', 'i', 'n', 'i', 't', 'y'], ['n', 'a', 'n']]

/-- Whether the text can be read as a floating-point number. -/
def isNumber (text : List Char) : Bool :=
  let unsigned :=
    match text with
    | '+' :: rest => rest
    | '-' :: rest => rest
    | _ => text
  isUnsignedNumber unsigned || numberWords.contains (unsigned.map Char.toLower)

/-- Words that mean something else than themselves. -/
def reservedWords : List String :=
  ["true", "false", "null", "yes", "no", "on", "off", "True", "False", "Null"]

/-- Whether a plain name may start with the character. -/
def isPlainStart (c : Char) : Bool := c.isAlphanum || c = '_' || c = '$'

/-- Whether a plain name may go on with the character. -/
def isPlainPart (c : Char) : Bool :=
  c.isAlphanum || c = '_' || c = '-' || c = '.' || c = '$' || c = '/'

/-- Whether a name is written without quotes. -/
def isPlainName (name : String) : Bool :=
  match name.toList with
  | [] => false
  | first :: rest =>
    isPlainStart first && rest.all isPlainPart && !reservedWords.contains name &&
      !isNumber (first :: rest)

/-- The written form of a name. -/
def nameText (name : String) : String := if isPlainName name then name else quote name

/-! ## Documents -/

/-- A line of a document. -/
structure Line where
  /-- The level of the line. -/
  level : Nat
  /-- The text behind the blanks of the level. -/
  text : String
  deriving DecidableEq, Repr

/-- The line as a text, with its end. -/
def Line.render (l : Line) : String :=
  String.ofList (List.replicate (2 * l.level) ' ') ++ l.text ++ "\n"

/-- Whether the value takes lines of its own. -/
def isBlock : Value → Bool
  | .array items => !items.isEmpty
  | .object members => !members.isEmpty
  | _ => false

/-- The text of a value that takes no lines of its own. -/
def inline : Value → String
  | .null => "null"
  | .bool b => toString b
  | .number n => n.text
  | .string s => quote s
  | .array _ => "[]"
  | .object _ => "\x7b\x7d"

/-- The lines of an entry: its head, and the value behind it or on the lines below. -/
def entryLines (level : Nat) (head : String) (value : Value) (block : List Line) : List Line :=
  if isBlock value then ⟨level, head⟩ :: block else [⟨level, head ++ " " ++ inline value⟩]

mutual

/-- The lines of a value. -/
def lines (level : Nat) : Value → List Line
  | .array (item :: rest) => itemLines level (item :: rest)
  -- Members are written by name, with the lines that belong to them.
  | .object (member :: rest) =>
    ((memberLines level (member :: rest)).mergeSort fun a b => a.1 ≤ b.1).flatMap (·.2)
  | value => [⟨level, inline value⟩]

/-- The lines of the items of an array. -/
def itemLines (level : Nat) : List Value → List Line
  | [] => []
  | item :: rest => entryLines level "-" item (lines (level + 1) item) ++ itemLines level rest

/-- The lines of each member of an object. -/
def memberLines (level : Nat) : List (String × Value) → List (String × List Line)
  | [] => []
  | (name, value) :: rest =>
    (name, entryLines level (nameText name ++ ":") value (lines (level + 1) value)) ::
      memberLines level rest

end

/-- The document of a value. -/
def encode (value : Value) : String := String.join ((lines 0 value).map Line.render)

end EntityModel.Yaml
