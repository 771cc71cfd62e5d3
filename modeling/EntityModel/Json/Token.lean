import EntityModel.Json.Node
import EntityModel.Text.Hex

/-! # Tokens of a JSON text

The text as a list of tokens. The list ends with the text or behind the first token that is broken
in itself. Blanks between tokens are spaces, tabs, line feeds and carriage returns. -/

namespace EntityModel.Json

/-- A token of a JSON text. -/
inductive Token where
  /-- An opening bracket. -/
  | openArray
  /-- A closing bracket. -/
  | closeArray
  /-- An opening brace. -/
  | openObject
  /-- A closing brace. -/
  | closeObject
  /-- A comma. -/
  | comma
  /-- A colon. -/
  | colon
  /-- A string: where it breaks off, or its content, or the fault of using it. -/
  | quoted (content : Except Break (Except Fault String))
  /-- A number, a truth value, null, or a broken place. -/
  | scalar (node : Node)

namespace Token

/-- Whether the character may stand between tokens. -/
def isBlank (c : Char) : Bool := c = ' ' || c = '\t' || c = '\n' || c = '\r'

/-! ## Words -/

/-- What follows the rest of a word. -/
def afterWord : List Char → List Char → Except Fault (List Char)
  | [], text => .ok text
  | _ :: _, [] => .error .truncated
  | expected :: word, c :: text =>
    if c = expected then afterWord word text else .error .malformed

/-- The token of a word of which the first letter is read already. -/
def ofWord (node : Node) (word text : List Char) : Token × List Char :=
  match afterWord word text with
  | .ok rest => (.scalar node, rest)
  | .error fault => (.scalar (.broken (.inScalar fault fault)), [])

/-! ## Numbers -/

/-- A broken number. One that the text cuts off is truncated only for a reader that uses it. -/
def brokenNumber (rest : List Char) : Node :=
  .broken (.inScalar (if rest.isEmpty then .truncated else .malformed) .malformed)

/-- The number of the parts. -/
def number (parts : NumberText) : Node :=
  .number (match parts.value? with
    | some n => .ok n
    | none => .error .malformed)

/-- The exponent behind its letter. -/
def exponent (parts : NumberText) (text : List Char) : Node × List Char :=
  let (negative, text) :=
    match text with
    | '-' :: rest => (true, rest)
    | '+' :: rest => (false, rest)
    | _ => (false, text)
  let digits := text.takeWhile Char.isDigit
  if digits.isEmpty then (brokenNumber text, [])
  else
    let value : Int := Text.decimalValue digits
    let parts := { parts with exponent := some (if negative then -value else value) }
    (number parts, text.dropWhile Char.isDigit)

/-- What may follow the digits in front of the exponent. -/
def exponentOrEnd (parts : NumberText) : List Char → Node × List Char
  | 'e' :: rest => exponent parts rest
  | 'E' :: rest => exponent parts rest
  | text => (number parts, text)

/-- What may follow the digits in front of the point. -/
def fractionOrEnd (negative : Bool) (whole : List Char) : List Char → Node × List Char
  | '.' :: rest =>
    let digits := rest.takeWhile Char.isDigit
    if digits.isEmpty then (brokenNumber rest, [])
    else exponentOrEnd ⟨negative, whole, some digits, none⟩ (rest.dropWhile Char.isDigit)
  | text => exponentOrEnd ⟨negative, whole, none, none⟩ text

/-- The number behind its sign. It has no zero in front of other digits. -/
def unsigned (negative : Bool) (text : List Char) : Node × List Char :=
  let digits := text.takeWhile Char.isDigit
  let rest := text.dropWhile Char.isDigit
  match digits with
  | [] => (brokenNumber text, [])
  -- A zero in front of other digits is wrong even if the text ends behind them.
  | '0' :: _ :: _ => (.broken (.always .malformed), [])
  | _ => fractionOrEnd negative digits rest

/-! ## Strings -/

/-- The length of a text in bytes. -/
def byteLength (text : List Char) : Nat := text.foldl (fun n c => n + c.utf8Size) 0

/-- Whether the number is the first half of a surrogate pair. -/
def isHighSurrogate (n : Nat) : Bool := 0xd800 ≤ n && n ≤ 0xdbff

/-- Whether the number is the second half of a surrogate pair. -/
def isLowSurrogate (n : Nat) : Bool := 0xdc00 ≤ n && n ≤ 0xdfff

/-- The character of a surrogate pair. -/
def ofSurrogates (high low : Nat) : Char :=
  Char.ofNat ((high - 0xd800) * 0x400 + (low - 0xdc00) + 0x10000)

/-- The fault of a code point escape that cannot be read: the text ends within its four bytes, or
these are not all digits. -/
def hexFault (text : List Char) : Fault :=
  if byteLength text < 4 then .truncated else .malformed

/-- The second half of a surrogate pair, which has to follow the first one at once. -/
def lowSurrogate : List Char → Except Fault Nat
  | [] => .error .truncated
  | '\\' :: [] => .error .truncated
  | '\\' :: 'u' :: text =>
    match Text.readHex? (text.take 4) with
    | some n =>
      if text.length < 4 then .error (hexFault text)
      else if isLowSurrogate n then .ok n
      else .error .malformed
    | none => .error (hexFault text)
  | _ => .error .malformed

/-- The character of a short escape. -/
def shortEscape? (c : Char) : Option Char :=
  if c = '"' ∨ c = '\\' ∨ c = '/' then some c
  else if c = 'b' then some '\x08'
  else if c = 'f' then some '\x0c'
  else if c = 'n' then some '\n'
  else if c = 'r' then some '\r'
  else if c = 't' then some '\t'
  else none

/-- The content of a string as it is collected: where the string breaks off, or its characters or
the fault of using them, with the text behind the closing quote. -/
abbrev Content := Except Break (Except Fault (List Char) × List Char)

/-- Puts a character in front of the content. -/
def Content.push (c : Char) : Content → Content
  | .ok (chars, rest) => .ok (chars.map (c :: ·), rest)
  | .error place => .error place

/-- Marks the content as unusable from here on. -/
def Content.spoil (fault : Fault) : Content → Content
  | .ok (_, rest) => .ok (.error fault, rest)
  | .error place => .error { place with used := fault, asString := fault }

/-- The content of a string behind its opening quote. -/
def content : List Char → Content
  | [] => .error (.always .truncated)
  | c :: text =>
    if c = '"' then .ok (.ok [], text)
    else if c = '\\' then
      match text with
      | [] => .error (.always .truncated)
      | 'u' :: a₁ :: a₂ :: a₃ :: a₄ :: rest =>
        match Text.readHex? [a₁, a₂, a₃, a₄] with
        | none => .error (.always .malformed)
        | some n =>
          -- The two halves of a surrogate pair are one character, and neither stands alone.
          if isHighSurrogate n then
            match lowSurrogate rest with
            | .error fault => (content rest).spoil fault
            | .ok low =>
              match rest with
              | _ :: _ :: _ :: _ :: _ :: _ :: rest => (content rest).push (ofSurrogates n low)
              | _ => .error (.always .malformed)
          else if isLowSurrogate n then (content rest).spoil .malformed
          else (content rest).push (Char.ofNat n)
      | 'u' :: rest => .error (.always (hexFault rest))
      | e :: rest =>
        match shortEscape? e with
        | some c => (content rest).push c
        | none => .error (.always .malformed)
    -- Control characters have to be escaped.
    else if c.toNat < 0x20 then .error (.always .malformed)
    else (content text).push c

/-- The string behind its opening quote. -/
def ofString (text : List Char) : Token × List Char :=
  match content text with
  | .ok (chars, rest) => (.quoted (.ok (chars.map String.ofList)), rest)
  | .error place => (.quoted (.error place), [])

/-! ## Texts -/

/-- The token that starts with the character. -/
def next (c : Char) (text : List Char) : Token × List Char :=
  let scalar (read : Node × List Char) : Token × List Char := (.scalar read.1, read.2)
  if c = '[' then (.openArray, text)
  else if c = ']' then (.closeArray, text)
  else if c = '\x7b' then (.openObject, text)
  else if c = '\x7d' then (.closeObject, text)
  else if c = ',' then (.comma, text)
  else if c = ':' then (.colon, text)
  else if c = '"' then ofString text
  else if c = 'n' then ofWord .null ['u', 'l', 'l'] text
  else if c = 't' then ofWord (.bool true) ['r', 'u', 'e'] text
  else if c = 'f' then ofWord (.bool false) ['a', 'l', 's', 'e'] text
  else if c = '-' then scalar (unsigned true text)
  else if c.isDigit then scalar (unsigned false (c :: text))
  else (.scalar (.broken (.always .malformed)), [])

/-- At most the given number of tokens of a text. -/
def listUpTo : Nat → List Char → List Token
  | 0, _ => []
  | count + 1, text =>
    match text.dropWhile isBlank with
    | [] => []
    | c :: rest =>
      let (token, rest) := next c rest
      token :: listUpTo count rest

/-- The tokens of a text. There are no more of them than characters. -/
def list (text : List Char) : List Token := listUpTo text.length text

end Token

end EntityModel.Json
