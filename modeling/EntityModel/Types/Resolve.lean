import EntityModel.Types.Basic

/-! # Resolving properties

A property is resolved against the enumerations and definitions of a schema. `resolve` looks at the
property alone and checks that references lead somewhere; `underlying` follows references from
definition to definition until it comes to something else, and stops when it meets a definition for
the second time. -/

namespace EntityModel

/-- The names that a reference may lead to. -/
structure Vocabulary where
  /-- The enumerations. -/
  enums : NameMap Enumeration
  /-- The definitions. -/
  definitions : NameMap Property

/-- The vocabulary of a schema. -/
def Schema.vocabulary (s : Schema) : Vocabulary := ⟨s.enums, s.definitions⟩

namespace Vocabulary

/-- The type of a reference. -/
def resolveReference (v : Vocabulary) (target : String) : Except ResolveError SemanticType :=
  match Reference.ofTarget target with
  | .definition name =>
    if v.definitions.contains name then .ok (.definition name)
    else .error (.unknownDefinition target)
  | .enumeration name =>
    if v.enums.contains name then .ok (.enumeration name) else .error (.unknownEnum target)
  | .other => .error (.unsupportedRef target)

/-- The type of a property. A reference counts before everything else the property says. -/
def resolve (v : Vocabulary) : Property → Except ResolveError SemanticType
  | ⟨type, format, reference, _, items, properties, required, additional⟩ =>
    match reference with
    | some target => v.resolveReference target
    | none =>
      let object : SemanticType :=
        .object ⟨properties, required, additional.bind Json.Value.flag?⟩
      match type with
      | none => .ok (if properties.isEmpty then .any else object)
      | some name =>
        match PrimitiveKind.ofName? name with
        | some kind => .ok (.primitive ⟨kind, format⟩)
        | none =>
          if name = "array" then
            match items with
            | some p => .array <$> resolve v p
            | none => .ok (.array .any)
          else if name = "object" then .ok object
          else .ok .any

/-- The definitions that are not among those that were met. -/
def unmet (v : Vocabulary) (met : List String) : List String :=
  v.definitions.names.filter fun name => !met.contains name

/-- Meeting one more definition leaves fewer of them. -/
theorem length_unmet_lt {v : Vocabulary} {met : List String} {name : String} {p : Property}
    (h : v.definitions.find? name = some p) (hmet : met.contains name = false) :
    (v.unmet (name :: met)).length < (v.unmet met).length := by
  have hsplit : v.unmet (name :: met) = (v.unmet met).filter fun n => n != name := by
    simp only [unmet, List.filter_filter]
    congr 1
    funext n
    by_cases hn : n = name <;> simp [hn]
  rw [hsplit]
  refine List.length_filter_lt_length_iff_exists.2 ⟨name, ?_, by simp⟩
  simp only [unmet, List.mem_filter]
  exact ⟨Entries.mem_names_of_find? h, by simpa using hmet⟩

/-- Follows references to definitions, given the definitions that were met. -/
def follow (v : Vocabulary) (met : List String) : SemanticType → Except ResolveError SemanticType
  | .definition name =>
    match _hmet : met.contains name with
    | true => .error (.refCycle name)
    | false =>
      match _h : v.definitions.find? name with
      | none => .error (.unknownDefinition (Reference.definitionsPath ++ name))
      | some p =>
        match v.resolve p with
        | .error e => .error e
        | .ok type => follow v (name :: met) type
  | type => .ok type
termination_by (v.unmet met).length
decreasing_by exact length_unmet_lt _h _hmet

/-- The type behind all references to definitions. -/
def underlying (v : Vocabulary) (type : SemanticType) : Except ResolveError SemanticType :=
  v.follow [] type

/-- Whether the property is an array, perhaps behind references. -/
def isArray (v : Vocabulary) (p : Property) : Except ResolveError Bool := do
  let type ← v.resolve p
  let type ← v.underlying type
  return type.isArray

end Vocabulary

end EntityModel
