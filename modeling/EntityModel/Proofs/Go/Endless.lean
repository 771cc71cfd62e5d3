import EntityModel.Proofs.Go.Types
import EntityModel.Proofs.Types.Chains

/-! # Types without an end

The Go type of an array is a list of the type of its items, and a definition that is neither known
by name nor has a struct stands for the type behind it. So the search for the type of such a
definition goes on with the definition that it is an array of (`GoesOn`), which may be the same one
again. The search has no end exactly if it comes to a definition for the second time
(`goType?_eq_none_iff`). -/

namespace EntityModel.Go

open Relation

variable {v : Vocabulary} {name next other : String} {type : SemanticType}
  {outcome : Except ResolveError GoType}

/-- The search for the Go type of the first definition goes on with the second one: the first one is
neither known by name nor has a struct, and what is behind it is an array of the second one, or an
array of such arrays, and so on. -/
def GoesOn (v : Vocabulary) (name next : String) : Prop :=
  WellKnown.ofDefinition? name = none ∧ hasStruct v name = false ∧
    ∃ type, v.underlying (.definition name) = .ok type ∧ type.innermost = .definition next

/-- The search for the Go type of the definition comes to a definition that it comes back to. -/
def Endless (v : Vocabulary) (name : String) : Prop :=
  ∃ again, ReflTransGen (GoesOn v) name again ∧ TransGen (GoesOn v) again again

/-! ## Searches that go on -/

/-- A search goes on in one way only. -/
theorem GoesOn.unique (h : GoesOn v name next) (h' : GoesOn v name other) : next = other := by
  obtain ⟨-, -, type, htype, hnext⟩ := h
  obtain ⟨-, -, type', htype', hother⟩ := h'
  obtain rfl := Except.ok.inj (htype.symm.trans htype')
  exact SemanticType.definition.inj (hnext.symm.trans hother)

/-- A search without an end has none from any step on. -/
theorem Endless.exists_goesOn (h : Endless v name) :
    ∃ next, GoesOn v name next ∧ Endless v next := by
  obtain ⟨again, hway, hcircle⟩ := h
  rcases ReflTransGen.cases_head hway with rfl | ⟨next, hnext, hway⟩
  · obtain ⟨next, hnext, hback⟩ := TransGen.head'_iff.1 hcircle
    exact ⟨next, hnext, name, hback, hcircle⟩
  · exact ⟨next, hnext, again, hway, hcircle⟩

/-- What goes on with a search without an end has none. -/
theorem GoesOn.endless (h : GoesOn v name next) (hnext : Endless v next) : Endless v name := by
  obtain ⟨again, hway, hcircle⟩ := hnext
  exact ⟨again, .head h hway, hcircle⟩

/-- A search that ends never comes to a definition without an end. -/
theorem TypeFor.not_endless (h : TypeFor v type outcome)
    (hname : type.innermost = .definition name) :
    ¬Endless v name := by
  induction h generalizing name with
  | primitive | enumeration | object | any => cases hname
  -- Each step that ends a search is one that does not go on.
  | wellKnown hknown =>
    intro hendless
    obtain rfl := SemanticType.definition.inj hname
    obtain ⟨_, ⟨hnone, -⟩, -⟩ := hendless.exists_goesOn
    cases hknown.symm.trans hnone
  | struct _ hstruct =>
    intro hendless
    obtain rfl := SemanticType.definition.inj hname
    obtain ⟨_, ⟨-, hplain, -⟩, -⟩ := hendless.exists_goesOn
    cases hstruct.symm.trans hplain
  | unresolved _ _ he =>
    intro hendless
    obtain rfl := SemanticType.definition.inj hname
    obtain ⟨_, ⟨-, -, _, htype, -⟩, -⟩ := hendless.exists_goesOn
    cases he.symm.trans htype
  -- The search goes on with the one next definition, which has no end either.
  | behind _ _ htype _ ih =>
    intro hendless
    obtain rfl := SemanticType.definition.inj hname
    obtain ⟨next, ⟨-, -, _, htype', hnext⟩, hendless⟩ := hendless.exists_goesOn
    obtain rfl := Except.ok.inj (htype.symm.trans htype')
    exact ih hnext hendless
  | array _ ih => exact ih hname

/-! ## Searches that end -/

/-- The search for a type ends if it ends for the definition behind its arrays, if there is one. -/
theorem exists_typeFor_of_innermost
    (h : ∀ name, type.innermost = .definition name →
      ∃ outcome, TypeFor v (.definition name) outcome) :
    ∃ outcome, TypeFor v type outcome := by
  induction type with
  | primitive q => exact ⟨_, .primitive q⟩
  | enumeration name => exact ⟨_, .enumeration name⟩
  | definition name => exact h name rfl
  | array items ih =>
    obtain ⟨outcome, houtcome⟩ := ih h
    exact ⟨_, .array houtcome⟩
  | object shape => exact ⟨_, .object shape⟩
  | any => exact ⟨_, .any⟩

/-- The search for the type of a definition ends unless it comes back to one that it has come to.
The definitions that were met are those that it came through. -/
theorem exists_typeFor_definition (met : List String) (name : String)
    (hmet : ∀ other ∈ met, TransGen (GoesOn v) other name) (hend : ¬Endless v name) :
    ∃ outcome, TypeFor v (.definition name) outcome := by
  cases hknown : WellKnown.ofDefinition? name with
  | some known => exact ⟨_, .wellKnown hknown⟩
  | none =>
    cases hstruct : hasStruct v name with
    | true => exact ⟨_, .struct hknown hstruct⟩
    | false =>
      cases htype : v.underlying (.definition name) with
      | error e => exact ⟨_, .unresolved hknown hstruct htype⟩
      | ok type =>
        obtain ⟨outcome, houtcome⟩ : ∃ outcome, TypeFor v type outcome := by
          refine exists_typeFor_of_innermost fun next hnext => ?_
          have hstep : GoesOn v name next := ⟨hknown, hstruct, type, htype, hnext⟩
          -- The definition was not met before, for then the search would have come back to it.
          have hfewer : (v.unmet (name :: met)).length < (v.unmet met).length := by
            obtain ⟨p, hp⟩ := Vocabulary.exists_find?_of_underlying htype
            refine Vocabulary.length_unmet_lt hp ?_
            rw [List.contains_eq_mem, decide_eq_false_iff_not]
            exact fun hmem => hend ⟨name, .refl, hmet name hmem⟩
          refine exists_typeFor_definition (name :: met) next ?_ fun h => hend (hstep.endless h)
          exact List.forall_mem_cons.2 ⟨.single hstep, fun other h => .tail (hmet other h) hstep⟩
        exact ⟨outcome, .behind hknown hstruct htype houtcome⟩
termination_by (v.unmet met).length

/-! ## Types without an end -/

/-- **The search for a Go type has no end exactly if it comes to a definition twice**: the type is a
definition, or an array of it, or an array of such arrays and so on, and the definition leads by
arrays to one that is an array of itself. -/
theorem goType?_eq_none_iff :
    v.goType? type = none ↔ ∃ name, type.innermost = .definition name ∧ Endless v name := by
  constructor
  · intro h
    by_contra hno
    obtain ⟨outcome, houtcome⟩ : ∃ outcome, TypeFor v type outcome :=
      exists_typeFor_of_innermost fun name hname =>
        exists_typeFor_definition [] name (List.forall_mem_nil _)
          fun hend => hno ⟨name, hname, hend⟩
    cases h.symm.trans (goType?_eq_some_iff.2 houtcome)
  · rintro ⟨name, hname, hendless⟩
    cases h : v.goType? type with
    | none => rfl
    | some outcome => exact absurd hendless ((goType?_eq_some_iff.1 h).not_endless hname)

/-- A type has no Go type for want of an end exactly if it comes to a definition twice. -/
theorem typeOf_eq_endless_iff : typeOf v type = .error .endless ↔
    ∃ name, type.innermost = .definition name ∧ Endless v name := by
  rw [typeOf_eq_error_iff, ← goType?_eq_none_iff]
  simp

/-- A definition that is an array of itself has no Go type, unless its name or its members give it
one. -/
theorem typeOf_eq_endless_of_isArrayOf {p : Property} (hp : v.definitions.find? name = some p)
    (harray : p.IsArrayOf (.refer (Reference.definitionsPath ++ name)))
    (hnone : WellKnown.ofDefinition? name = none) (hplain : hasStruct v name = false) :
    typeOf v (.definition name) = .error .endless := by
  have hmeaning : v.meaning name = .ok (.array (.definition name)) := by
    simp only [Vocabulary.meaning, hp, Vocabulary.resolve_array harray, Vocabulary.resolve_refer hp]
    rfl
  have hlast : v.EndsIn name name := by
    refine ⟨.refl, fun next hnext => ?_⟩
    cases hmeaning.symm.trans (Vocabulary.refersOn_iff_meaning.1 hnext)
  have hstep : GoesOn v name name := ⟨hnone, hplain, _, hlast.underlying.trans hmeaning, rfl⟩
  exact typeOf_eq_endless_iff.2 ⟨name, rfl, name, .refl, .single hstep⟩

end EntityModel.Go
