import EntityModel.Text.Hex

/-! # Strings in TOML

A string stands between double quotes, where a backslash escapes, or between single quotes, where
nothing does. Between single marks it ends on its own line. Between triple marks it may run over
several lines, a line break right behind the opening mark does not count, and up to two more marks
may stand in front of the closing ones. Every line break in it is read as a line feed. -/

namespace EntityModel.Toml

/-- Whether the character may stand in strings and comments: no control character but the tab. -/
def isPlain (c : Char) : Bool := c = '\t' || (0x20 ≤ c.toNat && c.toNat ≠ 0x7f)

/-- Whether the character is a blank within a line. -/
def isBlank (c : Char) : Bool := c = ' ' || c = '\t'

/-- The text behind a line break, if it starts with one. -/
def afterBreak? : List Char → Option (List Char)
  | '\n' :: rest => some rest
  | '\r' :: '\n' :: rest => some rest
  | _ => none

namespace Quoted

/-! ## Escapes -/

/-- The character of that number, unless there is none. -/
def ofCodePoint? (n : Nat) : Option Char :=
  if n.isValidChar then some (Char.ofNat n) else none

/-- The character of a code point in exactly so many hexadecimal digits. -/
def codePoint? (width : Nat) (text : List Char) : Option Char :=
  if text.length < width then none
  else (Text.readHex? (text.take width)).bind ofCodePoint?

/-- The character of an escape behind its backslash, and of how many characters the escape is. -/
def escape? : List Char → Option (Char × Nat)
  | [] => none
  | c :: rest =>
    if c = 'u' then (codePoint? 4 rest).map (·, 5)
    else if c = 'U' then (codePoint? 8 rest).map (·, 9)
    else if c = '"' ∨ c = '\\' then some (c, 1)
    else if c = 'b' then some ('\x08', 1)
    else if c = 't' then some ('\t', 1)
    else if c = 'n' then some ('\n', 1)
    else if c = 'f' then some ('\x0c', 1)
    else if c = 'r' then some ('\r', 1)
    else none

/-- The text behind all blanks and line breaks. -/
def skipSpace : List Char → List Char
  | '\r' :: '\n' :: rest => skipSpace rest
  | c :: rest => if isBlank c ∨ c = '\n' then skipSpace rest else c :: rest
  | [] => []

/-- The text behind an escaped line break, which takes all space around it along. -/
def afterEscapedBreak? (text : List Char) : Option (List Char) :=
  (afterBreak? (text.dropWhile isBlank)).map skipSpace

/-! ## Contents -/

/-- The content of a string and the text behind it, if the string is complete. -/
abbrev Content := Option (List Char × List Char)

/-- Puts a character in front of the content. -/
def Content.push (c : Char) (content : Content) : Content :=
  content.map fun (chars, rest) => (c :: chars, rest)

/-- A string of one line behind its opening mark. At most so many characters are read. -/
def lineUpTo (mark : Char) : Nat → List Char → Content
  | 0, _ => none
  | _, [] => none
  | count + 1, c :: rest =>
    if c = mark then some ([], rest)
    else if c = '\\' ∧ mark = '"' then do
      let (e, length) ← escape? rest
      (lineUpTo mark count (rest.drop length)).push e
    else if isPlain c then (lineUpTo mark count rest).push c
    else none

/-- A string of one line behind its opening mark. -/
def line (mark : Char) (text : List Char) : Content := lineUpTo mark text.length text

/-- A string of several lines behind its opening marks. At most so many characters are read. -/
def linesUpTo (mark : Char) : Nat → List Char → Content
  | 0, _ => none
  | _, [] => none
  | count + 1, c :: rest =>
    if c = mark then
      if rest.take 2 = [mark, mark] then
        let more := ((rest.drop 2).takeWhile (· = mark)).length
        if more ≤ 2 then some (List.replicate more mark, rest.drop (2 + more)) else none
      else (linesUpTo mark count rest).push c
    else if c = '\\' ∧ mark = '"' then
      match afterEscapedBreak? rest with
      | some rest => linesUpTo mark count rest
      | none => do
        let (e, length) ← escape? rest
        (linesUpTo mark count (rest.drop length)).push e
    else
      match afterBreak? (c :: rest) with
      | some rest => (linesUpTo mark count rest).push '\n'
      | none => if isPlain c then (linesUpTo mark count rest).push c else none

/-- A string of several lines behind its opening marks. -/
def lines (mark : Char) (text : List Char) : Content :=
  let text := (afterBreak? text).getD text
  linesUpTo mark text.length text

/-- A string behind its first opening mark. -/
def string (mark : Char) (text : List Char) : Content :=
  if text.take 2 = [mark, mark] then lines mark (text.drop 2) else line mark text

end Quoted

end EntityModel.Toml
