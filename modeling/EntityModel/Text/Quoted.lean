import EntityModel.Text.Hex
import EntityModel.Text.Printable

/-! # Quoted text in messages

Messages show names in double quotes. Inside them a quote and a backslash take a backslash, the
common control characters their short escapes, and every other character that is not printable or
that would combine with its neighbour is written as its code point. A single character is shown in
single quotes by the same rules, where only the single quote is escaped. -/

namespace EntityModel.Text

/-- The code point of a character in braces after `\u`. -/
def codePointEscape (c : Char) : List Char :=
  ['\\', 'u', '\x7b'] ++ shortHex c.toNat ++ ['\x7d']

/-- The written form of a character between quotes of the given kind. -/
def escapeWithin (quote : Char) (c : Char) : List Char :=
  if c = '\x00' then ['\\', '0']
  else if c = '\t' then ['\\', 't']
  else if c = '\r' then ['\\', 'r']
  else if c = '\n' then ['\\', 'n']
  else if c = '\\' then ['\\', '\\']
  else if c = quote then ['\\', quote]
  else if isCombining c || !isPrintable c then codePointEscape c
  else [c]

/-- Text in double quotes. -/
def quoted (text : String) : String :=
  String.ofList ('"' :: text.toList.flatMap (escapeWithin '"') ++ ['"'])

/-- A character in single quotes. -/
def quotedChar (c : Char) : String :=
  String.ofList ('\'' :: escapeWithin '\'' c ++ ['\''])

end EntityModel.Text
