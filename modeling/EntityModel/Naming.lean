import EntityModel.Text.Fields
import EntityModel.Text.LetterCase

/-! # Names

How the names of the model become names of code: `camel` for types and fields, `snake` for columns,
`tableName` for tables (snake case in the plural) and `idColumn` for the columns of a join table. -/

namespace EntityModel.Naming

/-! ## Camel case -/

/-- Words that are written in their own way, by their lower-case form. -/
def initialisms : List (List Char × List Char) :=
  [("id".toList, "ID".toList), ("ids".toList, "IDs".toList), ("api".toList, "API".toList),
    ("url".toList, "URL".toList), ("uuid".toList, "UUID".toList), ("sku".toList, "SKU".toList)]

/-- The characters that separate the words of a name. -/
def isWordSeparator (c : Char) : Bool := c = '_' || c = '-' || c = ' ' || c = '.'

/-- A word with its first letter in upper case and the others in lower case. -/
def capitalize : List Char → List Char
  | [] => []
  | c :: rest => Text.toUpper c ++ rest.flatMap Text.toLower

/-- A capitalized word, or its own spelling if it is an initialism. -/
def camelWord (word : List Char) : List Char :=
  let word := capitalize word
  (initialisms.lookup (word.map Char.toLower)).getD word

/-- The name in camel case: `housing_unit` is `HousingUnit`, `project_ids` is `ProjectIDs`. -/
def camel (name : String) : String :=
  let words := (Text.fields isWordSeparator name.toList).filter (!·.isEmpty)
  String.ofList (words.flatMap camelWord)

/-! ## Snake case -/

/-- Whether the capital `c` starts a word: it follows a small letter or a digit, or it is the last
capital of a run and a small letter follows. -/
def startsWord (before : Option Char) (c : Char) (after : Option Char) : Bool :=
  c.isUpper && match before with
    | none => false
    | some b => b.isLower || b.isDigit || (b.isUpper && after.any Char.isLower)

/-- The snake case of the rest of a name, given the character `before` it in the name and the `last`
character written so far. Separators become underscores, of which no two stand together and none
at the start. -/
def snakeFrom (before last : Option Char) : List Char → List Char
  | [] => []
  | c :: rest =>
    if c = '-' ∨ c = ' ' ∨ c = '_' then
      if last = none ∨ last = some '_' then snakeFrom (some c) last rest
      else '_' :: snakeFrom (some c) (some '_') rest
    else if startsWord before c rest.head? ∧ last ≠ some '_' then
      '_' :: c.toLower :: snakeFrom (some c) (some c.toLower) rest
    else c.toLower :: snakeFrom (some c) (some c.toLower) rest

/-- The name in snake case: `BreedingUnit` is `breeding_unit`, `APIKey` is `api_key`. -/
def snake (name : String) : String := String.ofList (snakeFrom none none name.toList)

/-! ## Plurals -/

/-- The vowels, in lower case. -/
def vowels : List Char := ['a', 'e', 'i', 'o', 'u']

/-- Whether the character is an ASCII letter other than a vowel. -/
def isConsonant (c : Char) : Bool := c.isAlpha && !vowels.contains c.toLower

/-- The plural of a word. A word in `s` counts as a plural; a final `y` after a consonant becomes
`ies`. -/
def pluralOf (word : List Char) : List Char :=
  match word.reverse with
  | 's' :: _ => word
  | 'y' :: before =>
    if before.head?.any isConsonant then before.reverse ++ ['i', 'e', 's'] else word ++ ['s']
  | _ => word ++ ['s']

/-- The plural of a name: `facility` is `facilities`, `project` is `projects`. -/
def plural (word : String) : String := String.ofList (pluralOf word.toList)

/-- The table of an entity. -/
def tableName (entity : String) : String := plural (snake entity)

/-- The column of a join table that points at an entity. -/
def idColumn (entity : String) : String := snake entity ++ "_id"

end EntityModel.Naming
