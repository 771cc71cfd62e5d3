import EntityModel.NameMap
import EntityModel.Toml.Value

/-! # Filling TOML tables

Nothing is defined twice. A dotted key makes the tables that it runs through, and extends those that
dotted keys have made. A header opens a table: a new one, or one that so far was only implied by the
headers of tables inside it. A header in double brackets adds an item to an array of tables, and the
last item stands for the array in the headers that follow. -/

namespace EntityModel.Toml.Table

/-- Defines the value of a dotted key, unless something is in its way. -/
def define (value : Value) :
    List String → List (String × Value) → Option (List (String × Value))
  | [], _ => none
  | [name], entries =>
    match Entries.find? name entries with
    | none => some (Entries.insert name value entries)
    | some _ => none
  | name :: path, entries => do
    let inner ←
      match Entries.find? name entries with
      | none => some []
      | some (.table .dotted inner) => some inner
      | some _ => none
    return Entries.insert name (.table .dotted (← define value path inner)) entries

/-- The table of dotted keys and their values, written in braces. -/
def ofMembers? (members : List (List String × Value)) : Option Value := do
  let entries ← members.foldlM (fun entries (path, value) => define value path entries) []
  return .table .braces entries

/-- Changes the entries of a table that is open, or of the last item of an array of tables. -/
def within (change : List (String × Value) → Option (List (String × Value))) :
    Value → Option Value
  | .table .braces _ => none
  | .table origin inner => (change inner).map (.table origin)
  | .array true items =>
    match items.getLast? with
    | some (.table origin inner) =>
      (change inner).map fun inner => .array true (items.dropLast ++ [.table origin inner])
    | _ => none
  | _ => none

/-- Changes what stands at a path. Tables that are missing on the way are implied by it. -/
def alter (change : Option Value → Option Value) :
    List String → List (String × Value) → Option (List (String × Value))
  | [], _ => none
  | [name], entries => do
    return Entries.insert name (← change (Entries.find? name entries)) entries
  | name :: path, entries => do
    let value ←
      match Entries.find? name entries with
      | none => (alter change path []).map (.table .implied)
      | some value => within (alter change path) value
    return Entries.insert name value entries

/-- Opens the table of a header. -/
def openTable : Option Value → Option Value
  | none => some (.table .header [])
  | some (.table .implied inner) => some (.table .header inner)
  | some _ => none

/-- Opens the next item of an array of tables. -/
def openItem : Option Value → Option Value
  | none => some (.array true [.table .header []])
  | some (.array true items) => some (.array true (items ++ [.table .header []]))
  | some _ => none

/-- Changes the table at a path that is open, or the outermost one. -/
def extend (change : List (String × Value) → Option (List (String × Value))) (path : List String)
    (entries : List (String × Value)) : Option (List (String × Value)) :=
  if path = [] then change entries else alter (·.bind (within change)) path entries

end EntityModel.Toml.Table
