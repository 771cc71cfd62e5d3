/-! # Paths

A path is a text of parts between slashes. Empty parts and dots lead nowhere, two dots lead to the
directory above. -/

namespace EntityModel.Path

/-- The parts of a path, in order. -/
def partsOf : List Char → List (List Char)
  | [] => [[]]
  | c :: rest =>
    match partsOf rest with
    | part :: parts => if c = '/' then [] :: part :: parts else (c :: part) :: parts
    | [] => [[c]]

/-- The parts of a path, in order. -/
def parts (path : String) : List String := (partsOf path.toList).map String.ofList

/-- A path, written backwards, without what leads nowhere at its end. A dot or a slash at its
beginning remains. -/
def trimReversed : List Char → List Char
  | '/' :: c :: rest => trimReversed (c :: rest)
  | ['.', '/'] => ['/']
  | '.' :: '/' :: c :: rest => trimReversed ('/' :: c :: rest)
  | reversed => reversed

/-- A path without what leads nowhere at its end. -/
def trim (path : List Char) : List Char := (trimReversed path.reverse).reverse

/-- The directory that a path is in, which is empty for a name alone. The root is in none. -/
def parent? (path : String) : Option String :=
  let trimmed := trim path.toList
  if trimmed = [] ∨ trimmed = ['/'] then none
  else some (String.ofList (trim (trimmed.reverse.dropWhile (· ≠ '/')).reverse))

/-- A path behind a directory. -/
def join (directory name : String) : String :=
  if directory = "" ∨ directory.endsWith "/" then directory ++ name else directory ++ "/" ++ name

end EntityModel.Path
