/-! # TOML values

The values of a configuration file. A table remembers how it came about, since that decides what may
still be added to it: a table in braces is complete at once, a header opens a table that nothing but
another header had implied, and dotted keys only extend tables that dotted keys have made. -/

namespace EntityModel.Toml

/-- How a table came about. -/
inductive Origin where
  /-- It is written in braces. -/
  | braces
  /-- It has a header of its own. -/
  | header
  /-- Only the headers of tables inside it stand for it. -/
  | implied
  /-- Dotted keys run through it. -/
  | dotted
  deriving DecidableEq, Repr

/-- A value of a configuration file. -/
inductive Value where
  /-- A string. -/
  | string (s : String)
  /-- An integer of 64 bits. -/
  | integer (n : Int)
  /-- A floating-point number, as it is written. -/
  | float (text : String)
  /-- A truth value. -/
  | boolean (b : Bool)
  /-- A date, a time, or both, as it is written. -/
  | moment (text : String)
  /-- An array, which further headers may extend if its items have headers. -/
  | array (headed : Bool) (items : List Value)
  /-- A table. -/
  | table (origin : Origin) (entries : List (String × Value))

namespace Value

/-- False is a value. -/
instance : Inhabited Value := ⟨.boolean false⟩

/-- The string, if the value is one. -/
def text? : Value → Option String
  | .string s => some s
  | _ => none

/-- The text of a string is the string. -/
@[simp] theorem text?_string (s : String) : (Value.string s).text? = some s := rfl

end Value

end EntityModel.Toml
