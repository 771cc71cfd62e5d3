import EntityModel.Go.Types
import EntityModel.Proofs.Outcome
import EntityModel.Proofs.Types.Following

/-! # Go types of properties

A type that is no reference to a definition has a Go type at once. A definition that is known by
name, or has a struct, is not looked into; behind every other one stands the type that its
references lead to (`typeOf_definition_eq_ok`). If the search for a type ends, then it ends as
`TypeFor` says (`goType?_eq_some_iff`), which has a constructor for each way to go on. -/

namespace EntityModel.Go

variable {v : Vocabulary} {p : Property} {required : Bool} {type : SemanticType} {g : GoType}
  {name : String}

/-! ## How a search ends -/

/-- The search for the Go type of a type ends with the outcome. -/
inductive TypeFor (v : Vocabulary) : SemanticType → Except ResolveError GoType → Prop
  /-- A primitive type has its Go type. -/
  | primitive (q : Primitive) : TypeFor v (.primitive q) (.ok (primitiveType q))
  /-- An enumeration has a type of its own. -/
  | enumeration (name : String) : TypeFor v (.enumeration name) (.ok (.named (Naming.camel name)))
  /-- A definition that is known by name has the type that its name tells. -/
  | wellKnown {name : String} {known : WellKnown}
      (hknown : WellKnown.ofDefinition? name = some known) :
      TypeFor v (.definition name) (.ok (if known.isIdentifier then .string else .time))
  /-- A definition with a struct has the struct. -/
  | struct {name : String} (hnone : WellKnown.ofDefinition? name = none)
      (hstruct : hasStruct v name = true) :
      TypeFor v (.definition name) (.ok (.named (Naming.camel name)))
  /-- Nothing is behind the definition. -/
  | unresolved {name : String} {e : ResolveError} (hnone : WellKnown.ofDefinition? name = none)
      (hplain : hasStruct v name = false) (he : v.underlying (.definition name) = .error e) :
      TypeFor v (.definition name) (.error e)
  /-- Every other definition has the type of what is behind it. -/
  | behind {name : String} {type : SemanticType} {outcome : Except ResolveError GoType}
      (hnone : WellKnown.ofDefinition? name = none) (hplain : hasStruct v name = false)
      (htype : v.underlying (.definition name) = .ok type) (h : TypeFor v type outcome) :
      TypeFor v (.definition name) outcome
  /-- An array is a list of the type of its items. -/
  | array {items : SemanticType} {outcome : Except ResolveError GoType}
      (h : TypeFor v items outcome) : TypeFor v (.array items) (GoType.slice <$> outcome)
  /-- An object has no type of its own. -/
  | object (shape : ObjectShape) : TypeFor v (.object shape) (.ok .anyMap)
  /-- Anything may be anything. -/
  | any : TypeFor v .any (.ok .any)

/-- A search comes to an end as its steps do. -/
theorem goType?_eq_some_iff {outcome : Except ResolveError GoType} :
    v.goType? type = some outcome ↔ TypeFor v type outcome := by
  constructor
  · intro h
    -- What holds of each step, given that it holds of the rest of the search, holds of the whole.
    refine Vocabulary.goType?.partial_correctness v (TypeFor v) ?_ _ _ h
    intro search ih type outcome h
    split at h
    · cases h
      exact .primitive _
    · cases h
      exact .enumeration _
    · split at h
      · rename_i hknown
        cases h
        exact .wellKnown hknown
      · rename_i hnone
        split at h
        · rename_i hstruct
          cases h
          exact .struct hnone hstruct
        · rename_i hstruct
          have hplain := Bool.eq_false_iff.2 hstruct
          split at h
          · rename_i he
            cases h
            exact .unresolved hnone hplain he
          · rename_i htype
            exact .behind hnone hplain htype (ih _ _ h)
    · obtain ⟨inner, hinner, heq⟩ := Option.bind_eq_some_iff.1 h
      cases heq
      exact .array (ih _ _ hinner)
    · cases h
      exact .object _
    · cases h
      exact .any
  · intro h
    induction h with
    | primitive | enumeration | object | any => rw [Vocabulary.goType?]
    | wellKnown hknown => simp only [Vocabulary.goType?, hknown]
    | struct hnone hstruct => simp only [Vocabulary.goType?, hnone, if_pos hstruct]
    | unresolved hnone hplain he => simp [Vocabulary.goType?, hnone, hplain, he]
    | behind hnone hplain htype _ ih => simp [Vocabulary.goType?, hnone, hplain, htype, ih]
    | array _ ih =>
      rw [Vocabulary.goType?, ih]
      rfl

/-! ## Go types -/

/-- A type has the Go type that the search for it ends with. -/
theorem typeOf_eq_ok_iff : typeOf v type = .ok g ↔ TypeFor v type (.ok g) := by
  rw [← goType?_eq_some_iff, typeOf]
  cases v.goType? type with
  | none => simp
  | some outcome => simp [Outcome.mapError_eq_ok_iff]

/-- A type has no Go type because of what the search for it ends with, or because it has no end. -/
theorem typeOf_eq_error_iff {e : TypeError} : typeOf v type = .error e ↔
    (∃ cause, TypeFor v type (.error cause) ∧ e = .unresolved cause) ∨
      v.goType? type = none ∧ e = .endless := by
  simp only [← goType?_eq_some_iff, typeOf]
  rcases v.goType? type with _ | cause | g
  · simp [eq_comm]
  · simp [Except.mapError, eq_comm]
  · simp [Except.mapError]

/-- What a reference to a definition becomes, if it has a Go type. -/
theorem typeOf_definition_eq_ok (h : typeOf v (.definition name) = .ok g) :
    (∃ known, WellKnown.ofDefinition? name = some known ∧
      g = if known.isIdentifier then .string else .time) ∨
    WellKnown.ofDefinition? name = none ∧
      (hasStruct v name = true ∧ g = .named (Naming.camel name) ∨
        hasStruct v name = false ∧ ∃ behind, v.underlying (.definition name) = .ok behind ∧
          typeOf v behind = .ok g) := by
  cases typeOf_eq_ok_iff.1 h with
  | wellKnown hknown => exact .inl ⟨_, hknown, rfl⟩
  | struct hnone hstruct => exact .inr ⟨hnone, .inl ⟨hstruct, rfl⟩⟩
  | behind hnone hplain hbehind hg =>
    exact .inr ⟨hnone, .inr ⟨hplain, _, hbehind, typeOf_eq_ok_iff.2 hg⟩⟩

/-- The Go type of an array is a list. -/
theorem exists_of_typeOf_array {items : SemanticType} (h : typeOf v (.array items) = .ok g) :
    ∃ inner, typeOf v items = .ok inner ∧ g = .slice inner := by
  cases hinner : v.goType? items with
  | none =>
    rw [typeOf, Vocabulary.goType?, hinner] at h
    cases h
  | some outcome =>
    rw [typeOf, Vocabulary.goType?, hinner] at h
    obtain ⟨inner, rfl, rfl⟩ := Outcome.map_eq_ok_iff.1 (Outcome.mapError_eq_ok_iff.1 h)
    exact ⟨inner, typeOf_eq_ok_iff.2 (goType?_eq_some_iff.1 hinner), rfl⟩

/-- A field has the Go type of what its property means, and a pointer to it where need be. -/
theorem fieldType_eq_ok_iff : fieldType v p required = .ok g ↔
    ∃ type base, v.resolve p = .ok type ∧ typeOf v type = .ok base ∧
      g = base.forField required := by
  simp only [fieldType, Outcome.bind_eq_ok_iff, Outcome.mapError_eq_ok_iff, pure, Except.pure,
    Except.ok.injEq]
  constructor
  · rintro ⟨type, htype, base, hbase, rfl⟩
    exact ⟨type, base, htype, hbase, rfl⟩
  · rintro ⟨type, base, htype, hbase, rfl⟩
    exact ⟨type, htype, base, hbase, rfl⟩

/-- The field of a property that means a primitive type. -/
theorem fieldType_primitive {q : Primitive} (h : v.resolve p = .ok (.primitive q)) :
    fieldType v p required = .ok ((primitiveType q).forField required) :=
  fieldType_eq_ok_iff.2 ⟨_, _, h, typeOf_eq_ok_iff.2 (.primitive q), rfl⟩

/-- The field of a text. -/
theorem fieldType_text (v : Vocabulary) (required : Bool) :
    fieldType v (.primitive "string") required = .ok (GoType.string.forField required) :=
  fieldType_primitive (q := ⟨.string, none⟩) rfl

end EntityModel.Go
