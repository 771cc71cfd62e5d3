/-! # Banners

What the first lines of an artifact say: which tool made it and from which schema. -/

namespace EntityModel

/-- The origin of an artifact. -/
structure Banner where
  /-- The tool that made it. -/
  generator : String
  /-- The schema it was made from, if that is known. -/
  source : Option String
  deriving DecidableEq, Repr

namespace Banner

/-- The tool that is named if nothing else is said. -/
def defaultGenerator : String := "entitygen"

/-- The path where a schema is expected if nothing else is said. -/
def defaultSource : String := "docs/schema/entity-model.json"

/-- The banner if nothing else is said. -/
def standard : Banner := ⟨defaultGenerator, some defaultSource⟩

/-- The lines of the banner, without the mark of a comment. -/
def lines (b : Banner) : List String :=
  ("Code generated by " ++ b.generator ++ ". DO NOT EDIT.") ::
    match b.source with
    | some source => ["Source of truth: " ++ source]
    | none => []

end Banner

end EntityModel
