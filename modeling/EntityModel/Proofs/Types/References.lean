import EntityModel.GenerateError
import EntityModel.Proofs.NameMap
import EntityModel.Proofs.Outcome
import EntityModel.Types.Resolve

/-! # References

A property may be a reference, and so may the items of an array and the members of an object.
`Property.Mentions` holds of the targets of all references in a property, at any depth, and
`Property.PointsTo` only of the one behind arrays. Resolving a property looks at what it points to
and no further (`exists_resolve_iff`). -/

namespace EntityModel

/-! ## Properties -/

namespace Property

/-- What holds of a property as soon as it holds of its items and its members, holds of every
property. -/
@[elab_as_elim] theorem induction {P : Property → Prop}
    (step : ∀ p : Property, (∀ q, p.items = some q → P q) →
      (∀ member ∈ p.properties, P member.2) → P p) (p : Property) : P p :=
  @rec P (fun items => ∀ q, items = some q → P q) (fun members => ∀ member ∈ members, P member.2)
    (fun member => P member.2) (fun _ _ _ _ _ _ _ _ hitems hmembers => step _ hitems hmembers)
    (by simp) (fun _ hp _ heq => Option.some.inj heq ▸ hp) (by simp)
    (fun _ _ hmember hrest => List.forall_mem_cons.2 ⟨hmember, hrest⟩) (fun _ _ hp => hp) p

/-- The property is an array of items of the other one. -/
def IsArrayOf (p q : Property) : Prop :=
  p.reference = none ∧ p.type = some "array" ∧ p.items = some q

/-- The property is an object, or says nothing else about its type. -/
def IsObject (p : Property) : Prop := p.reference = none ∧ (p.type = none ∨ p.type = some "object")

/-- The property is an object, and the other one is a member of it. -/
def HasMember (p q : Property) : Prop := p.IsObject ∧ ∃ name, (name, q) ∈ p.properties

/-- The target is the one of the property, or of its items, or of their items, and so on. -/
inductive PointsTo : Property → String → Prop
  /-- A reference. -/
  | reference {p : Property} {target : String} (h : p.reference = some target) : PointsTo p target
  /-- An array. -/
  | item {p q : Property} {target : String} (h : p.IsArrayOf q) (hq : PointsTo q target) :
      PointsTo p target

/-- The target is the one of a reference in the property, at any depth. References are not
followed, and what stands beside a reference does not count. -/
inductive Mentions : Property → String → Prop
  /-- A reference. -/
  | reference {p : Property} {target : String} (h : p.reference = some target) : Mentions p target
  /-- An array. -/
  | item {p q : Property} {target : String} (h : p.IsArrayOf q) (hq : Mentions q target) :
      Mentions p target
  /-- An object. -/
  | member {p q : Property} {target : String} (h : p.HasMember q) (hq : Mentions q target) :
      Mentions p target

/-- One of the properties mentions the target. -/
def MentionedIn (properties : List (String × Property)) (target : String) : Prop :=
  ∃ e ∈ properties, e.2.Mentions target

variable {p q : Property} {target : String}

/-- A property mentions what it points to. -/
theorem PointsTo.mentions (h : p.PointsTo target) : p.Mentions target := by
  induction h with
  | reference h => exact .reference h
  | item h _ ih => exact .item h ih

/-- A property mentions its own target, and what its items and its members mention. -/
theorem mentions_iff : p.Mentions target ↔ p.reference = some target ∨
    (∃ q, p.IsArrayOf q ∧ q.Mentions target) ∨ ∃ q, p.HasMember q ∧ q.Mentions target := by
  constructor
  · rintro (h | ⟨h, hq⟩ | ⟨h, hq⟩)
    · exact .inl h
    · exact .inr (.inl ⟨_, h, hq⟩)
    · exact .inr (.inr ⟨_, h, hq⟩)
  · rintro (h | ⟨q, h, hq⟩ | ⟨q, h, hq⟩)
    · exact .reference h
    · exact .item h hq
    · exact .member h hq

/-- A reference mentions nothing but its target. -/
theorem mentions_iff_of_reference {other : String} (h : p.reference = some target) :
    p.Mentions other ↔ other = target := by
  constructor
  · rintro (hother | ⟨harray, -⟩ | ⟨hmember, -⟩)
    · exact Option.some.inj (hother.symm.trans h)
    · exact absurd (h.symm.trans harray.1) (by simp)
    · exact absurd (h.symm.trans hmember.1.1) (by simp)
  · rintro rfl
    exact .reference h

/-- An array mentions what its items mention. -/
theorem mentions_iff_of_isArrayOf (h : p.IsArrayOf q) : p.Mentions target ↔ q.Mentions target := by
  constructor
  · rintro (hreference | ⟨harray, hq⟩ | ⟨hmember, -⟩)
    · exact absurd (h.1.symm.trans hreference) (by simp)
    · rwa [Option.some.inj (h.2.2.symm.trans harray.2.2)]
    · rcases hmember.1.2 with htype | htype
      · exact absurd (h.2.1.symm.trans htype) (by simp)
      · exact absurd (h.2.1.symm.trans htype) (by simp)
  · exact .item h

/-- An object mentions what its members mention. -/
theorem mentions_iff_of_isObject (h : p.IsObject) :
    p.Mentions target ↔ MentionedIn p.properties target := by
  constructor
  · rintro (hreference | ⟨harray, -⟩ | ⟨⟨-, name, hmem⟩, hq⟩)
    · exact absurd (h.1.symm.trans hreference) (by simp)
    · rcases h.2 with htype | htype
      · exact absurd (harray.2.1.symm.trans htype) (by simp)
      · exact absurd (harray.2.1.symm.trans htype) (by simp)
    · exact ⟨(name, _), hmem, hq⟩
  · rintro ⟨e, he, hmentions⟩
    exact .member ⟨h, e.1, he⟩ hmentions

/-- A property mentions nothing if it is no reference, and has no items and no members. -/
theorem not_mentions (hreference : p.reference = none) (hitems : ∀ q, ¬p.IsArrayOf q)
    (hmembers : ∀ q, ¬p.HasMember q) (target : String) : ¬p.Mentions target := by
  rw [mentions_iff, hreference]
  rintro (h | ⟨q, h, -⟩ | ⟨q, h, -⟩)
  · cases h
  · exact hitems q h
  · exact hmembers q h

/-- A reference points to nothing but its target. -/
theorem pointsTo_iff_of_reference {other : String} (h : p.reference = some target) :
    p.PointsTo other ↔ other = target := by
  constructor
  · rintro (hother | ⟨harray, -⟩)
    · exact Option.some.inj (hother.symm.trans h)
    · exact absurd (h.symm.trans harray.1) (by simp)
  · rintro rfl
    exact .reference h

end Property

/-- The target is the one of a reference in a definition or in a property of an entity. -/
def Schema.Mentions (s : Schema) (target : String) : Prop :=
  (∃ name p, s.definitions.find? name = some p ∧ p.Mentions target) ∨
    ∃ owner entity field p, s.entities.find? owner = some entity ∧
      entity.properties.find? field = some p ∧ p.Mentions target

/-! ## Targets -/

namespace Reference

/-- Something follows a start exactly if the text is the two in a row. -/
theorem after?_eq_some_iff {start text rest : List Char} :
    after? start text = some rest ↔ text = start ++ rest := by
  induction start generalizing text with
  | nil => simp [after?, eq_comm]
  | cons p start ih =>
    cases text with
    | nil => simp [after?]
    | cons c text =>
      by_cases h : p = c
      · simp [after?, h, ih]
      · simp [after?, h, eq_comm]

/-- A name follows a path exactly if the target is the two in a row. -/
theorem after?_eq_some_iff_append {path target name : String} :
    after? path.toList target.toList = some name.toList ↔ target = path ++ name := by
  rw [after?_eq_some_iff, ← String.toList_inj, String.toList_append]

/-- A target leads to a definition exactly if it is the path of definitions and then its name. -/
theorem ofTarget_eq_definition_iff {target name : String} :
    ofTarget target = .definition name ↔ target = definitionsPath ++ name := by
  constructor
  · intro h
    unfold ofTarget at h
    split at h
    · rename_i rest hrest
      obtain rfl := Reference.definition.inj h
      rwa [← after?_eq_some_iff_append, String.toList_ofList]
    · split at h <;> cases h
  · rintro rfl
    exact ofTarget_definition name

/-- A target leads to an enumeration exactly if it is the path of enumerations and then its name. -/
theorem ofTarget_eq_enumeration_iff {target name : String} :
    ofTarget target = .enumeration name ↔ target = enumsPath ++ name := by
  constructor
  · intro h
    unfold ofTarget at h
    split at h
    · cases h
    · split at h
      · rename_i rest hrest
        obtain rfl := Reference.enumeration.inj h
        rwa [← after?_eq_some_iff_append, String.toList_ofList]
      · cases h
  · rintro rfl
    -- The third character tells the two paths apart.
    have hother : after? definitionsPath.toList (enumsPath ++ name).toList = none := by
      simp [definitionsPath, enumsPath, after?]
    have hname : after? enumsPath.toList (enumsPath ++ name).toList = some name.toList :=
      after?_eq_some_iff_append.2 rfl
    rw [ofTarget, hother, hname]
    exact congrArg Reference.enumeration String.ofList_toList

end Reference

/-- The target that the error names as missing. A circle of definitions lacks none. -/
def ResolveError.missing? : ResolveError → Option String
  | .unknownDefinition target => some target
  | .unknownEnum target => some target
  | .unsupportedRef target => some target
  | .refCycle _ => none

/-- The target that is named as missing, if the way to the type leads to one. -/
def TypeError.missing? : TypeError → Option String
  | .unresolved cause => cause.missing?
  | .endless => none

/-- The target that is named as missing, if the cause of the error is that there is one. -/
def GenerateError.missing? : GenerateError → Option String
  | .definition _ cause => cause.missing?
  | .definitionProperty _ _ cause => cause.missing?
  | .property _ _ cause => cause.missing?
  | _ => none

/-- An error that names a missing target is reported. -/
theorem GenerateError.isReported_of_missing? {e : GenerateError} {target : String}
    (h : e.missing? = some target) : e.IsReported := by
  cases e with
  | definitionProperty _ _ cause | property _ _ cause =>
    cases cause with
    | unresolved => trivial
    | endless => cases h
  | _ => trivial

namespace Vocabulary

open Reference

variable {v : Vocabulary} {p q : Property} {target : String}

/-- The target is a definition or an enumeration of the vocabulary. -/
def Knows (v : Vocabulary) (target : String) : Prop :=
  (∃ name, target = definitionsPath ++ name ∧ v.definitions.contains name = true) ∨
    ∃ name, target = enumsPath ++ name ∧ v.enums.contains name = true

/-- All the targets are known. -/
def AllKnown (v : Vocabulary) (targets : String → Prop) : Prop :=
  ∀ target, targets target → v.Knows target

/-- There is a missing target, and it is one of the targets that is not known. -/
def SomeMissing (v : Vocabulary) (targets : String → Prop) (missing : Option String) : Prop :=
  ∃ target, missing = some target ∧ targets target ∧ ¬v.Knows target

/-- What is missing of some targets is missing of more of them. -/
theorem SomeMissing.mono {targets others : String → Prop} {missing : Option String}
    (h : v.SomeMissing targets missing) (hsub : ∀ target, targets target → others target) :
    v.SomeMissing others missing := by
  obtain ⟨target, hmissing, htarget, hknows⟩ := h
  exact ⟨target, hmissing, hsub target htarget, hknows⟩

/-- If a target is named as missing, it is one of the targets that is not known. -/
def Blames (v : Vocabulary) (targets : String → Prop) (missing : Option String) : Prop :=
  ∀ target, missing = some target → targets target ∧ ¬v.Knows target

/-- What is blamed of some targets is blamed of more of them. -/
theorem Blames.mono {targets others : String → Prop} {missing : Option String}
    (h : v.Blames targets missing) (hsub : ∀ target, targets target → others target) :
    v.Blames others missing := by
  intro target hmissing
  obtain ⟨htarget, hknows⟩ := h target hmissing
  exact ⟨hsub target htarget, hknows⟩

/-- An error that names no target blames none. -/
theorem blames_of_eq_none {targets : String → Prop} {missing : Option String}
    (h : missing = none) : v.Blames targets missing := by
  rintro target hmissing
  cases h.symm.trans hmissing

/-- The missing target is the one that is blamed. -/
theorem SomeMissing.blames {targets : String → Prop} {missing : Option String}
    (h : v.SomeMissing targets missing) : v.Blames targets missing := by
  obtain ⟨target, hmissing, htarget, hknows⟩ := h
  intro target' hmissing'
  obtain rfl := Option.some.inj (hmissing.symm.trans hmissing')
  exact ⟨htarget, hknows⟩

/-- The error is one that the program reports, and if it names a target as missing, then this is one
of the targets that is not known. -/
structure Reports (v : Vocabulary) (targets : String → Prop) (e : GenerateError) : Prop where
  /-- It is reported. -/
  isReported : e.IsReported
  /-- What it names as missing is not known. -/
  blames : v.Blames targets e.missing?

/-- An error that names a target is reported. -/
theorem SomeMissing.reports {targets : String → Prop} {e : GenerateError}
    (h : v.SomeMissing targets e.missing?) : v.Reports targets e := by
  obtain ⟨target, hmissing, -⟩ := id h
  exact ⟨GenerateError.isReported_of_missing? hmissing, h.blames⟩

/-- A pass reads the targets that its steps read. -/
theorem ends_mapM {ι α ε : Type} {f : ι → Except ε α} {xs : List ι} {made : α → Prop}
    {reads : ι → String → Prop} {Q : ι → ε → Prop} {R : ε → Prop}
    (h : ∀ x ∈ xs, Outcome.Ends (f x) (fun a => made a ∧ v.AllKnown (reads x)) (Q x))
    (herror : ∀ x ∈ xs, ∀ e, Q x e → R e) :
    Outcome.Ends (xs.mapM f)
      (fun as => (∀ a ∈ as, made a) ∧ v.AllKnown fun target => ∃ x ∈ xs, reads x target) R := by
  refine (Outcome.Ends.mapM h).imp ?_ ?_
  · rintro as ⟨hresult, hsource⟩
    constructor
    · intro a ha
      obtain ⟨x, -, hmade, -⟩ := hsource a ha
      exact hmade
    · rintro target ⟨x, hx, hreads⟩
      obtain ⟨a, -, -, hknown⟩ := hresult x hx
      exact hknown target hreads
  · rintro e ⟨x, hx, hQ⟩
    exact herror x hx e hQ

/-- A pass whose results do not matter. -/
theorem ends_mapM_reads {ι α ε : Type} {f : ι → Except ε α} {xs : List ι}
    {reads : ι → String → Prop} {Q : ι → ε → Prop} {R : ε → Prop}
    (h : ∀ x ∈ xs, Outcome.Ends (f x) (fun _ => v.AllKnown (reads x)) (Q x))
    (herror : ∀ x ∈ xs, ∀ e, Q x e → R e) :
    Outcome.Ends (xs.mapM f) (fun _ => v.AllKnown fun target => ∃ x ∈ xs, reads x target) R := by
  have hmade : ∀ x ∈ xs, Outcome.Ends (f x) (fun _ => True ∧ v.AllKnown (reads x)) (Q x) :=
    fun x hx => (h x hx).imp (fun _ hknown => ⟨trivial, hknown⟩) fun _ he => he
  exact (ends_mapM hmade herror).imp (fun _ hknown => hknown.2) fun _ he => he

/-- What a reference that is known stands for. -/
theorem resolveReference_eq_ok_iff {type : SemanticType} :
    v.resolveReference target = .ok type ↔
      (∃ name, target = definitionsPath ++ name ∧ v.definitions.contains name = true ∧
        type = .definition name) ∨
      ∃ name, target = enumsPath ++ name ∧ v.enums.contains name = true ∧
        type = .enumeration name := by
  simp only [← ofTarget_eq_definition_iff, ← ofTarget_eq_enumeration_iff]
  unfold resolveReference
  cases ofTarget target with
  | definition name =>
    by_cases h : v.definitions.contains name = true
    · simpa [h] using eq_comm
    · simp [h]
  | enumeration name =>
    by_cases h : v.enums.contains name = true
    · simpa [h] using eq_comm
    · simp [h]
  | other => simp

/-- Exactly the targets that are known have a type. -/
theorem exists_resolveReference_iff :
    (∃ type, v.resolveReference target = .ok type) ↔ v.Knows target := by
  simp only [resolveReference_eq_ok_iff, Knows]
  constructor
  · rintro ⟨_, ⟨name, htarget, hname, -⟩ | ⟨name, htarget, hname, -⟩⟩
    · exact .inl ⟨name, htarget, hname⟩
    · exact .inr ⟨name, htarget, hname⟩
  · rintro (⟨name, htarget, hname⟩ | ⟨name, htarget, hname⟩)
    · exact ⟨_, .inl ⟨name, htarget, hname, rfl⟩⟩
    · exact ⟨_, .inr ⟨name, htarget, hname, rfl⟩⟩

/-- The error of a reference names its target, which is not known. -/
theorem missing?_of_resolveReference {e : ResolveError} (h : v.resolveReference target = .error e) :
    e.missing? = some target ∧ ¬v.Knows target := by
  refine ⟨?_, fun hknows => ?_⟩
  · unfold resolveReference at h
    split at h
    · split at h <;> cases h
      rfl
    · split at h <;> cases h
      rfl
    · cases h
      rfl
  · obtain ⟨type, htype⟩ := exists_resolveReference_iff.2 hknows
    cases h.symm.trans htype

end Vocabulary

/-! ## Resolving -/

/-- The type behind arrays. -/
def SemanticType.innermost : SemanticType → SemanticType
  | .array items => items.innermost
  | type => type

/-- Whether the type is a reference. -/
def SemanticType.isReference : SemanticType → Bool
  | .definition _ | .enumeration _ => true
  | _ => false

namespace Vocabulary

open Reference

variable {v : Vocabulary} {p q : Property} {target : String} {type : SemanticType}

/-- A reference means what its target means. -/
theorem resolve_reference (h : p.reference = some target) :
    v.resolve p = v.resolveReference target := by
  cases p
  cases h
  rw [resolve]

/-- An array means an array of what its items mean. -/
theorem resolve_array (h : p.IsArrayOf q) : v.resolve p = SemanticType.array <$> v.resolve q := by
  obtain ⟨hreference, htype, hitems⟩ := h
  cases p
  cases hreference
  cases htype
  cases hitems
  rw [resolve]
  rfl

/-- A target means no array. -/
theorem innermost_of_resolveReference (h : v.resolveReference target = .ok type) :
    type.innermost = type := by
  rcases resolveReference_eq_ok_iff.1 h with ⟨_, -, -, rfl⟩ | ⟨_, -, -, rfl⟩ <;> rfl

/-- Where a property points to a target, it has a meaning if the target has one, and the two have
their error in common. -/
theorem resolve_of_pointsTo (h : p.PointsTo target) :
    (∀ e, v.resolve p = .error e ↔ v.resolveReference target = .error e) ∧
      ∀ type, v.resolve p = .ok type → v.resolveReference target = .ok type.innermost := by
  induction h with
  | reference h =>
    rw [resolve_reference h]
    exact ⟨fun e => Iff.rfl, fun type htype => htype.trans
      (congrArg _ (innermost_of_resolveReference htype).symm)⟩
  -- An array fails as its items do, and what it means has theirs innermost.
  | @item p q target h _ ih =>
    rw [resolve_array h]
    cases hq : v.resolve q with
    | error e =>
      refine ⟨fun e' => ?_, fun type htype => by cases htype⟩
      rw [← ih.1, hq]
      exact Iff.rfl
    | ok items =>
      refine ⟨fun e' => ?_, fun type htype => ?_⟩
      · rw [← ih.1, hq]
        exact iff_of_false nofun nofun
      · cases htype
        exact ih.2 items hq

/-- A property that points to nothing has a meaning, which is no reference. -/
theorem exists_resolve_of_not_pointsTo (h : ∀ target, ¬p.PointsTo target) :
    ∃ type, v.resolve p = .ok type ∧ type.innermost.isReference = false := by
  induction p using Property.induction with
  | step p ih _ =>
    obtain ⟨type, format, reference, _, items, properties, required, additional⟩ := p
    cases reference with
    | some target => exact absurd (.reference rfl) (h target)
    | none =>
      cases type with
      -- An object if there are members, and otherwise anything.
      | none => cases properties <;> exact ⟨_, rfl, rfl⟩
      | some name =>
        cases hkind : PrimitiveKind.ofName? name with
        | some kind => exact ⟨.primitive ⟨kind, format⟩, by unfold resolve; simp [hkind], rfl⟩
        | none =>
          by_cases harray : name = "array"
          · subst harray
            cases items with
            | none => exact ⟨.array .any, rfl, rfl⟩
            | some q =>
              -- What the items point to, the array does.
              obtain ⟨inner, hinner, hno⟩ := ih q rfl fun target hq =>
                h target (.item ⟨rfl, rfl, rfl⟩ hq)
              refine ⟨.array inner, ?_, hno⟩
              rw [resolve_array ⟨rfl, rfl, rfl⟩, hinner]
              rfl
          · by_cases hobject : name = "object"
            · subst hobject
              exact ⟨.object _, by unfold resolve; rfl, rfl⟩
            · exact ⟨.any, by unfold resolve; simp [hkind, harray, hobject], rfl⟩

/-- A property without a meaning points to the target that its error names. -/
theorem someMissing_of_resolve_eq_error {e : ResolveError} (h : v.resolve p = .error e) :
    v.SomeMissing p.PointsTo e.missing? := by
  by_cases hpoints : ∃ target, p.PointsTo target
  · obtain ⟨target, hpoints⟩ := hpoints
    obtain ⟨hmissing, hknows⟩ :=
      missing?_of_resolveReference ((resolve_of_pointsTo hpoints).1 e |>.1 h)
    exact ⟨target, hmissing, hpoints, hknows⟩
  · obtain ⟨type, htype, -⟩ := exists_resolve_of_not_pointsTo (v := v)
      fun target hp => hpoints ⟨target, hp⟩
    cases h.symm.trans htype

/-- **A property has a meaning exactly if what it points to is known.** -/
theorem exists_resolve_iff :
    (∃ type, v.resolve p = .ok type) ↔ ∀ target, p.PointsTo target → v.Knows target := by
  constructor
  · rintro ⟨type, htype⟩ target hpoints
    exact exists_resolveReference_iff.1 ⟨_, (resolve_of_pointsTo hpoints).2 type htype⟩
  · intro h
    cases hp : v.resolve p with
    | ok type => exact ⟨type, rfl⟩
    | error e =>
      obtain ⟨target, -, hpoints, hknows⟩ := someMissing_of_resolve_eq_error hp
      exact absurd (h target hpoints) hknows

/-- A reference in the meaning of a property is the one that the property points to. -/
theorem exists_pointsTo_of_isReference (h : v.resolve p = .ok type)
    (hinnermost : type.innermost.isReference = true) :
    ∃ target, p.PointsTo target ∧ v.resolveReference target = .ok type.innermost := by
  by_cases hpoints : ∃ target, p.PointsTo target
  · obtain ⟨target, hpoints⟩ := hpoints
    exact ⟨target, hpoints, (resolve_of_pointsTo hpoints).2 type h⟩
  · obtain ⟨type', htype', hno⟩ := exists_resolve_of_not_pointsTo (v := v)
      fun target hp => hpoints ⟨target, hp⟩
    obtain rfl := Except.ok.inj (h.symm.trans htype')
    cases hno.symm.trans hinnermost

/-- A definition behind the arrays of a meaning is one that the property points to, and it
exists. -/
theorem pointsTo_of_innermost_eq_definition {name : String} (h : v.resolve p = .ok type)
    (hinnermost : type.innermost = .definition name) :
    p.PointsTo (definitionsPath ++ name) ∧ v.definitions.contains name = true := by
  obtain ⟨target, hpoints, htarget⟩ := exists_pointsTo_of_isReference h (by rw [hinnermost]; rfl)
  rw [hinnermost, resolveReference_eq_ok_iff] at htarget
  rcases htarget with ⟨name, rfl, hname, heq⟩ | ⟨_, -, -, heq⟩
  · cases heq
    exact ⟨hpoints, hname⟩
  · cases heq

/-- An enumeration behind the arrays of a meaning exists. -/
theorem contains_of_innermost_eq_enumeration {name : String} (h : v.resolve p = .ok type)
    (hinnermost : type.innermost = .enumeration name) : v.enums.contains name = true := by
  obtain ⟨target, -, htarget⟩ := exists_pointsTo_of_isReference h (by rw [hinnermost]; rfl)
  rw [hinnermost, resolveReference_eq_ok_iff] at htarget
  rcases htarget with ⟨_, -, -, heq⟩ | ⟨name, -, hname, heq⟩
  · cases heq
  · cases heq
    exact hname

/-- Only a reference to a definition means a definition. -/
theorem resolve_eq_definition_iff {name : String} : v.resolve p = .ok (.definition name) ↔
    p.reference = some (definitionsPath ++ name) ∧ v.definitions.contains name = true := by
  constructor
  · intro h
    obtain ⟨hpoints, hname⟩ := pointsTo_of_innermost_eq_definition h rfl
    refine ⟨?_, hname⟩
    rcases hpoints with hreference | ⟨harray, -⟩
    · exact hreference
    · rw [resolve_array harray] at h
      cases hitems : v.resolve _ with
      | error e => cases (congrArg _ hitems).symm.trans h
      | ok items => cases (congrArg _ hitems).symm.trans h
  · rintro ⟨hreference, hname⟩
    rw [resolve_reference hreference, resolveReference_eq_ok_iff]
    exact .inl ⟨name, rfl, hname, rfl⟩

end Vocabulary

end EntityModel
