import EntityModel.Proofs.OpenApi.ComponentNames
import EntityModel.Proofs.Types.References

/-! # References of documents

A document refers to its own components only: every reference in it is the path of components and
the name of one that it holds. The component of a property keeps all references that the property
mentions, and follows none of them, so a document exists exactly if everything is known that the
definitions and the properties of entities mention. Circles of definitions do no harm
(`references_closed`). -/

namespace EntityModel

/-! ## Values under a key -/

namespace Json.Value

variable {key : String} {value : Value}

/-- An object in the value, at any depth, has the other one under the key. -/
inductive Stores : Value → String → Value → Prop
  /-- An object with the other value as a member. -/
  | here {members : List (String × Value)} {key : String} {value : Value}
      (h : (key, value) ∈ members) : Stores (.object members) key value
  /-- An array with an item that stores the other value. -/
  | item {items : List Value} {item : Value} {key : String} {value : Value} (h : item ∈ items)
      (hitem : Stores item key value) : Stores (.array items) key value
  /-- An object with a member that stores the other value. -/
  | member {members : List (String × Value)} {member : String × Value} {key : String}
      {value : Value} (h : member ∈ members) (hmember : Stores member.2 key value) :
      Stores (.object members) key value

/-- An object stores what it has as a member, and what its members store. -/
theorem stores_object_iff {members : List (String × Value)} :
    (object members).Stores key value ↔
      (key, value) ∈ members ∨ ∃ member ∈ members, member.2.Stores key value := by
  constructor
  · rintro (h | - | ⟨h, hmember⟩)
    · exact .inl h
    · exact .inr ⟨_, h, hmember⟩
  · rintro (h | ⟨member, h, hmember⟩)
    · exact .here h
    · exact .member h hmember

/-- A text stores nothing. -/
theorem not_stores_string (s : String) : ¬(string s).Stores key value := nofun

/-- A truth value stores nothing. -/
theorem not_stores_bool (b : Bool) : ¬(bool b).Stores key value := nofun

/-- A list of texts stores nothing. -/
theorem not_stores_strings (texts : List String) : ¬(strings texts).Stores key value := by
  rintro (- | ⟨h, hitem⟩)
  obtain ⟨s, -, rfl⟩ := List.mem_map.1 h
  exact not_stores_string s hitem

/-- All references in the value lead to components of definitions and enumerations. -/
def IsClosed (v : Vocabulary) (value : Value) : Prop :=
  ∀ target, value.Stores "$ref" (.string target) →
    ∃ name, (v.enums.contains name = true ∨ v.definitions.contains name = true) ∧
      target = OpenApi.componentsPath ++ Naming.camel name

/-- The value is an object, and its references lead to components. -/
def IsComponent (v : Vocabulary) (value : Value) : Prop :=
  (∃ members, value = .object members) ∧ value.IsClosed v

variable {v : Vocabulary}

/-- An object is a component if all its members are closed and none of them is itself a
reference. -/
theorem isComponent_object {members : List (String × Value)}
    (h : ∀ m ∈ members, m.2.IsClosed v ∧ (m.1 = "$ref" → ∀ target, m.2 ≠ .string target)) :
    (Value.object members).IsComponent v := by
  refine ⟨⟨members, rfl⟩, fun target hstores => ?_⟩
  rcases stores_object_iff.1 hstores with hmem | ⟨member, hmem, hmember⟩
  · exact absurd rfl ((h _ hmem).2 rfl target)
  · exact (h member hmem).1 target hmember

/-- Components under names of any kind make a component: as objects, they are no references. -/
theorem isComponent_of_members {members : List (String × Value)}
    (h : ∀ m ∈ members, m.2.IsComponent v) : (Value.object members).IsComponent v :=
  isComponent_object fun m hm => ⟨(h m hm).2, fun _ target heq => by
    obtain ⟨ms, hms⟩ := (h m hm).1
    cases heq.symm.trans hms⟩

/-- A text has no references. -/
@[simp] theorem isClosed_string (s : String) : (Value.string s).IsClosed v :=
  fun _ h => absurd h (not_stores_string s)

/-- A truth value has no references. -/
@[simp] theorem isClosed_bool (b : Bool) : (Value.bool b).IsClosed v :=
  fun _ h => absurd h (not_stores_bool b)

/-- A list of texts has no references. -/
@[simp] theorem isClosed_strings (texts : List String) : (Value.strings texts).IsClosed v :=
  fun _ h => absurd h (not_stores_strings texts)

end Json.Value

namespace OpenApi

open Json

/-! ## Components of properties -/

section

variable {v : Vocabulary} {p : Property}

/-- A primitive type has a component without references. -/
theorem isComponent_primitive (p : Primitive) : (primitive p).IsComponent v := by
  obtain ⟨kind, format⟩ := p
  refine Value.isComponent_object ?_
  cases format <;> simp

/-- An array has a component if the references of its items are closed. -/
theorem isComponent_arrayOf {items : Value} (h : items.IsClosed v) :
    (arrayOf items).IsComponent v := by
  refine Value.isComponent_object ?_
  simp [h]

/-- An object has a component if its members have. -/
theorem isComponent_objectOf {values : List (String × Value)} {required : List String}
    {additional : Option Bool} (h : ∀ m ∈ values, m.2.IsComponent v) :
    (objectOf values required additional).IsComponent v := by
  refine Value.isComponent_object ?_
  have hvalues : (Value.object values).IsClosed v := (Value.isComponent_of_members h).2
  cases additional <;> cases values <;> cases required <;> simp [hvalues]

/-- A reference to a name that exists is a component. -/
theorem isComponent_referenceTo {name : String}
    (h : v.enums.contains name = true ∨ v.definitions.contains name = true) :
    (referenceTo name).IsComponent v := by
  refine ⟨⟨_, rfl⟩, fun target hstores => ?_⟩
  rcases Value.stores_object_iff.1 hstores with hmem | ⟨member, hmem, hmember⟩
  · obtain rfl : target = componentsPath ++ Naming.camel name := by simpa using hmem
    exact ⟨name, h, rfl⟩
  · rw [List.mem_singleton.1 hmem] at hmember
    exact absurd hmember (Value.not_stores_string _)

/-- The component of a property is made in one of four ways: of its reference, of the component of
its items, of those of its members, or of nothing that could mention a reference. -/
theorem component_cases (v : Vocabulary) (p : Property) :
    (∃ target, p.reference = some target ∧ component v p = reference v target) ∨
    (∃ q, p.IsArrayOf q ∧ component v p = arrayOf <$> component v q) ∨
    (p.IsObject ∧ component v p = (do
      let values ← members v p.properties
      return objectOf values p.required p.additionalPropertiesFlag)) ∨
    ((∀ target, ¬p.Mentions target) ∧ ∃ c, component v p = .ok c ∧ c.IsComponent v) := by
  have hempty : (Value.object []).IsComponent v := Value.isComponent_object (by simp)
  obtain ⟨type, format, target, about, items, properties, required, additional⟩ := p
  cases target with
  | some target => exact .inl ⟨target, rfl, by rw [component]⟩
  | none =>
    right
    cases type with
    | none =>
      right
      cases properties with
      -- No type and no members: an object of which nothing is known.
      | nil =>
        refine .inr ⟨Property.not_mentions rfl ?_ ?_, _, by rw [component]; rfl, hempty⟩
        · rintro q ⟨-, htype, -⟩
          cases htype
        · rintro q ⟨-, name, hmem⟩
          cases hmem
      | cons => exact .inl ⟨⟨rfl, .inl rfl⟩, by rw [component]; rfl⟩
    | some name =>
      by_cases hobject : name = "object"
      · subst hobject
        exact .inr (.inl ⟨⟨rfl, .inr rfl⟩, by unfold component; rfl⟩)
      · have hmembers : ∀ q, ¬Property.HasMember
            ⟨some name, format, none, about, items, properties, required, additional⟩ q := by
          rintro q ⟨⟨-, htype | htype⟩, -⟩
          · cases htype
          · exact hobject (Option.some.inj htype)
        cases hkind : PrimitiveKind.ofName? name with
        | some kind =>
          -- A primitive type has no items.
          refine .inr (.inr ⟨Property.not_mentions rfl ?_ hmembers, primitive ⟨kind, format⟩,
            by unfold component; simp [hkind], isComponent_primitive _⟩)
          rintro q ⟨-, htype, -⟩
          obtain rfl := Option.some.inj htype
          cases hkind
        | none =>
          by_cases harray : name = "array"
          · subst harray
            cases items with
            | some q => exact .inl ⟨q, ⟨rfl, rfl, rfl⟩, by rw [component]; rfl⟩
            | none =>
              -- An array of anything.
              refine .inr (.inr ⟨Property.not_mentions rfl ?_ hmembers, _,
                by rw [component]; rfl, isComponent_arrayOf hempty.2⟩)
              rintro q ⟨-, -, hitems⟩
              cases hitems
          · refine .inr (.inr ⟨Property.not_mentions rfl ?_ hmembers, _,
              by unfold component; simp [hkind, harray, hobject], hempty⟩)
            rintro q ⟨-, htype, -⟩
            exact harray (Option.some.inj htype)

/-- The components of members are made one by one. -/
theorem members_eq_mapM (ps : List (String × Property)) :
    members v ps = ps.mapM fun e => (e.1, ·) <$> component v e.2 := by
  induction ps with
  | nil => rw [members]; rfl
  | cons e rest ih =>
    obtain ⟨name, q⟩ := e
    rw [members, List.mapM_cons, ih]
    cases component v q <;> rfl

/-- The component of a reference that is known refers to the name behind its path. -/
theorem ends_reference (target : String) : Outcome.Ends (reference v target)
    (fun c => c.IsComponent v ∧ v.Knows target)
    fun e => e.missing? = some target ∧ ¬v.Knows target := by
  cases h : v.resolveReference target with
  | error e =>
    rw [reference, h]
    exact Vocabulary.missing?_of_resolveReference h
  | ok type =>
    have hknows := Vocabulary.exists_resolveReference_iff.1 ⟨type, h⟩
    rw [reference, h]
    rcases Vocabulary.resolveReference_eq_ok_iff.1 h with
      ⟨name, -, hname, rfl⟩ | ⟨name, -, hname, rfl⟩
    · exact ⟨isComponent_referenceTo (.inr hname), hknows⟩
    · exact ⟨isComponent_referenceTo (.inl hname), hknows⟩

/-- A property has a component exactly if everything is known that it mentions. -/
theorem ends_component (p : Property) : Outcome.Ends (component v p)
    (fun c => c.IsComponent v ∧ v.AllKnown p.Mentions)
    fun e => v.SomeMissing p.Mentions e.missing? := by
  induction p using Property.induction with
  | step p ihitems ihmembers =>
    rcases component_cases v p with ⟨target, hreference, hp⟩ | ⟨q, harray, hp⟩ | ⟨hobject, hp⟩ |
      ⟨hno, c, hp, hc⟩
    case inl =>
      rw [hp]
      refine (ends_reference target).imp ?_ ?_
      · rintro c ⟨hc, hknows⟩
        refine ⟨hc, fun other hother => ?_⟩
        rwa [(Property.mentions_iff_of_reference hreference).1 hother]
      · rintro e ⟨hmissing, hknows⟩
        exact ⟨target, hmissing, .reference hreference, hknows⟩
    case inr.inl =>
      rw [hp]
      refine (ihitems q harray.2.2).map ?_ |>.imp (fun _ h => h) ?_
      · rintro c ⟨hc, hknown⟩
        exact ⟨isComponent_arrayOf hc.2, fun target hmentions =>
          hknown target ((Property.mentions_iff_of_isArrayOf harray).1 hmentions)⟩
      · rintro e ⟨target, hmissing, hmentions, hknows⟩
        exact ⟨target, hmissing, .item harray hmentions, hknows⟩
    case inr.inr.inl =>
      have hmentions : ∀ target, p.Mentions target ↔ Property.MentionedIn p.properties target :=
        fun _ => Property.mentions_iff_of_isObject hobject
      have hmembers : Outcome.Ends (members v p.properties)
          (fun values => (∀ m ∈ values, m.2.IsComponent v) ∧
            v.AllKnown (Property.MentionedIn p.properties))
          fun x => v.SomeMissing p.Mentions x.missing? := by
        rw [members_eq_mapM]
        refine Vocabulary.ends_mapM (fun e he => (ihmembers e he).map fun _ hc => hc) ?_
        exact fun e he x hx => hx.mono fun target hm => (hmentions target).2 ⟨e, he, hm⟩
      rw [hp]
      refine hmembers.bind fun values ⟨hvalues, hknown⟩ => ⟨isComponent_objectOf hvalues, ?_⟩
      exact fun target hm => hknown target ((hmentions target).1 hm)
    case inr.inr.inr =>
      rw [hp]
      exact ⟨hc, fun target hmentions => absurd hmentions (hno target)⟩

end

/-! ## Components of schemas -/

section

variable {v : Vocabulary}

/-- The components of an entity's properties are made one by one. -/
theorem entityMembers_eq_mapM (entity : String) (ps : List (String × Property)) :
    entityMembers v entity ps = ps.mapM fun e =>
      (e.1, ·) <$> (component v e.2).mapError fun x => .property entity e.1 (.unresolved x) := by
  induction ps with
  | nil => rfl
  | cons e rest ih =>
    obtain ⟨name, q⟩ := e
    rw [entityMembers, List.mapM_cons, ih]
    cases component v q <;> rfl

/-- The components of definitions are made one by one. -/
theorem definitionComponents_eq_mapM (definitions : List (String × Property)) :
    definitionComponents v definitions = definitions.mapM fun e =>
      (Naming.camel e.1, ·) <$> (component v e.2).mapError (.definition e.1) := by
  refine congrArg (definitions.mapM ·) (funext fun ⟨name, p⟩ => ?_)
  cases h : component v p <;> simp only [h] <;> rfl

/-- A pass over properties that makes their components under names, with errors that say where. -/
theorem ends_mapM_mapError (key : String → String) (wrap : String → ResolveError → GenerateError)
    (hwrap : ∀ name x, (wrap name x).missing? = x.missing?) (ps : List (String × Property)) :
    Outcome.Ends (ps.mapM fun e => (key e.1, ·) <$> (component v e.2).mapError (wrap e.1))
      (fun values => (∀ m ∈ values, m.2.IsComponent v) ∧ v.AllKnown (Property.MentionedIn ps))
      fun x => v.SomeMissing (Property.MentionedIn ps) x.missing? := by
  have hstep : ∀ e ∈ ps, Outcome.Ends ((key e.1, ·) <$> (component v e.2).mapError (wrap e.1))
      (fun m => m.2.IsComponent v ∧ v.AllKnown e.2.Mentions)
      fun x => v.SomeMissing e.2.Mentions x.missing? := by
    intro e _
    refine Outcome.Ends.map ((ends_component e.2).mapError fun x hx => ?_) fun _ hc => hc
    rwa [hwrap]
  exact Vocabulary.ends_mapM hstep fun e he x hx =>
    hx.mono fun target hmentions => ⟨e, he, hmentions⟩

/-- The properties of an entity have components exactly if everything is known that they mention. -/
theorem ends_entityMembers (entity : String) (ps : List (String × Property)) :
    Outcome.Ends (entityMembers v entity ps)
      (fun values => (∀ m ∈ values, m.2.IsComponent v) ∧ v.AllKnown (Property.MentionedIn ps))
      fun x => v.SomeMissing (Property.MentionedIn ps) x.missing? := by
  rw [entityMembers_eq_mapM]
  exact ends_mapM_mapError id (fun name x => .property entity name (.unresolved x))
    (fun _ _ => rfl) ps

/-- Definitions have components exactly if everything is known that they mention. -/
theorem ends_definitionComponents (definitions : List (String × Property)) :
    Outcome.Ends (definitionComponents v definitions)
      (fun values => (∀ m ∈ values, m.2.IsComponent v) ∧
        v.AllKnown (Property.MentionedIn definitions))
      fun x => v.SomeMissing (Property.MentionedIn definitions) x.missing? := by
  rw [definitionComponents_eq_mapM]
  exact ends_mapM_mapError Naming.camel .definition (fun _ _ => rfl) definitions

/-- A component that is marked as read-only is still one. -/
theorem isComponent_markReadOnly {c : Value} (h : c.IsComponent v) :
    (markReadOnly c).IsComponent v := by
  obtain ⟨⟨ms, rfl⟩, hclosed⟩ := h
  refine ⟨⟨_, rfl⟩, fun target hstores => hclosed target ?_⟩
  rw [Value.stores_object_iff]
  rcases Value.stores_object_iff.1 hstores with hmem | ⟨member, hmem, hmember⟩
  · exact .inl ((Entries.mem_insert hmem).resolve_left (by simp))
  · rcases Entries.mem_insert hmem with rfl | hmem
    · exact absurd hmember (Value.not_stores_bool true)
    · exact .inr ⟨member, hmem, hmember⟩

/-- The members of an entity make a component if they are components. -/
theorem isComponent_entityObject {values : List (String × Value)} {required : List String}
    (h : ∀ m ∈ values, m.2.IsComponent v) : (entityObject values required).IsComponent v := by
  refine Value.isComponent_object ?_
  have hvalues : (Value.object values).IsClosed v := (Value.isComponent_of_members h).2
  cases required <;> simp [hvalues]

/-- An entity has its three components exactly if everything is known that its properties
mention. -/
theorem ends_entityComponents (name : String) (e : Entity) :
    Outcome.Ends (entityComponents v name e)
      (fun c => (∀ m ∈ c.named name, m.2.IsComponent v) ∧
        v.AllKnown (Property.MentionedIn e.properties.entries))
      fun x => v.SomeMissing (Property.MentionedIn e.properties.entries) x.missing? := by
  refine (ends_entityMembers name e.properties.entries).bind
    fun values ⟨hvalues, hknown⟩ => ⟨?_, hknown⟩
  have hread : ∀ m ∈ values.map fun field =>
      if serverManaged.contains field.1 then (field.1, markReadOnly field.2) else field,
      m.2.IsComponent v := by
    intro m hm
    obtain ⟨field, hfield, rfl⟩ := List.mem_map.1 hm
    split
    · exact isComponent_markReadOnly (hvalues field hfield)
    · exact hvalues field hfield
  have hsent : ∀ m ∈ values.filter (!serverManaged.contains ·.1), m.2.IsComponent v :=
    fun m hm => hvalues m (List.mem_filter.1 hm).1
  simp only [EntityComponents.named, List.forall_mem_cons]
  exact ⟨isComponent_entityObject hread, isComponent_entityObject hsent,
    isComponent_entityObject hsent, by simp⟩

/-- Entities have their components exactly if everything is known that their properties mention. -/
theorem ends_allEntityComponents (entities : List (String × Entity)) :
    Outcome.Ends (allEntityComponents v entities)
      (fun values => (∀ m ∈ values, m.2.IsComponent v) ∧
        v.AllKnown fun target => ∃ e ∈ entities, Property.MentionedIn e.2.properties.entries target)
      fun x => v.SomeMissing
        (fun target => ∃ e ∈ entities, Property.MentionedIn e.2.properties.entries target)
        x.missing? := by
  have hgroups : Outcome.Ends
      (entities.mapM fun e => EntityComponents.named e.1 <$> entityComponents v e.1 e.2)
      (fun groups => (∀ group ∈ groups, ∀ m ∈ group, m.2.IsComponent v) ∧
        v.AllKnown fun target => ∃ e ∈ entities, Property.MentionedIn e.2.properties.entries target)
      fun x => v.SomeMissing
        (fun target => ∃ e ∈ entities, Property.MentionedIn e.2.properties.entries target)
        x.missing? := by
    refine Vocabulary.ends_mapM (fun e _ => (ends_entityComponents e.1 e.2).map fun _ h => h) ?_
    exact fun e he x hx => hx.mono fun target hmentions => ⟨e, he, hmentions⟩
  refine Outcome.Ends.bind hgroups fun groups ⟨hcomponents, hknown⟩ => ⟨fun m hm => ?_, hknown⟩
  obtain ⟨group, hgroup, hm⟩ := List.mem_flatten.1 hm
  exact hcomponents group hgroup m hm

/-- An enumeration has a component without references. -/
theorem isComponent_enumComponent (e : Enumeration) : (enumComponent e).IsComponent v := by
  refine Value.isComponent_object ?_
  simp

/-- A schema has components exactly if everything is known that it mentions. -/
theorem ends_components (s : Schema) : Outcome.Ends (components s)
    (fun m => (∀ e ∈ m.entries, e.2.IsComponent s.vocabulary) ∧ s.vocabulary.AllKnown s.Mentions)
    fun x => s.vocabulary.SomeMissing s.Mentions x.missing? := by
  -- Enumerations mention nothing, so only definitions and entities can fail.
  have hdefinitions : Outcome.Ends (definitionComponents s.vocabulary s.definitions.entries)
      (fun values => (∀ m ∈ values, m.2.IsComponent s.vocabulary) ∧
        s.vocabulary.AllKnown (Property.MentionedIn s.definitions.entries))
      fun x => s.vocabulary.SomeMissing s.Mentions x.missing? := by
    refine (ends_definitionComponents _).imp (fun _ h => h) fun x hx => hx.mono ?_
    rintro target ⟨d, hd, hmentions⟩
    exact .inl ⟨d.1, d.2, NameMap.find?_eq_some_iff.2 hd, hmentions⟩
  have hentities : Outcome.Ends (allEntityComponents s.vocabulary s.entities.entries)
      (fun values => (∀ m ∈ values, m.2.IsComponent s.vocabulary) ∧ s.vocabulary.AllKnown
        fun target => ∃ e ∈ s.entities.entries, Property.MentionedIn e.2.properties.entries target)
      fun x => s.vocabulary.SomeMissing s.Mentions x.missing? := by
    refine (ends_allEntityComponents _).imp (fun _ h => h) fun x hx => hx.mono ?_
    rintro target ⟨e, he, p, hp, hmentions⟩
    exact .inr ⟨e.1, e.2, p.1, p.2, NameMap.find?_eq_some_iff.2 he, NameMap.find?_eq_some_iff.2 hp,
      hmentions⟩
  refine hdefinitions.bind fun definitions ⟨hd, hknownD⟩ =>
    hentities.bind fun entities ⟨he, hknownE⟩ => ⟨fun m hm => ?_, ?_⟩
  · rcases List.mem_append.1 (Entries.mem_ofList hm) with hm | hm
    · rcases List.mem_append.1 hm with hm | hm
      · obtain ⟨e, -, rfl⟩ := List.mem_map.1 hm
        exact isComponent_enumComponent e.2
      · exact hd m hm
    · exact he m hm
  · rintro target (⟨name, p, hp, hmentions⟩ | ⟨owner, entity, field, p, howner, hp, hmentions⟩)
    · exact hknownD target ⟨(name, p), NameMap.find?_eq_some_iff.1 hp, hmentions⟩
    · exact hknownE target ⟨(owner, entity), NameMap.find?_eq_some_iff.1 howner, (field, p),
        NameMap.find?_eq_some_iff.1 hp, hmentions⟩

/-! ## Documents -/

/-- A document exists exactly if everything is known that is mentioned, and its references lead to
components. -/
theorem ends_document (title : String) (s : Schema) : Outcome.Ends (document title s)
    (fun d => d.IsClosed s.vocabulary ∧ s.vocabulary.AllKnown s.Mentions)
    fun x => s.vocabulary.SomeMissing s.Mentions x.missing? := by
  refine (ends_components s).bind fun m ⟨hm, hknown⟩ => ⟨?_, hknown⟩
  have hcomponents : (Value.object m.entries).IsComponent s.vocabulary :=
    Value.isComponent_of_members hm
  have hschemas : (Value.object [("schemas", .object m.entries)]).IsComponent s.vocabulary :=
    Value.isComponent_of_members (by simpa using hcomponents)
  have hinfo : (Value.object [("title", .string title), ("version", .string s.version)]).IsComponent
      s.vocabulary := Value.isComponent_object (by simp)
  exact (Value.isComponent_object (by simp [hschemas.2, hinfo.2])).2

/-- Every enumeration and every definition has a component under its name in camel case. -/
theorem exists_findComponent?_camel {title : String} {s : Schema} {d : Value}
    (h : document title s = .ok d) {name : String}
    (hname : s.enums.contains name = true ∨ s.definitions.contains name = true) :
    ∃ c, findComponent? d (Naming.camel name) = some c := by
  obtain ⟨written, -, hnames, -, hfind⟩ := exists_written h
  have hsources : Naming.camel name ∈ (sources s).map ComponentSource.componentName := by
    rw [map_componentName_sources]
    refine List.mem_append_left _ (List.mem_map_of_mem (List.mem_append.2 ?_))
    exact hname.imp NameMap.contains_iff.1 NameMap.contains_iff.1
  rw [← hnames, ← Entries.mem_names_ofList] at hsources
  obtain ⟨e, he, heq⟩ := List.mem_map.1 hsources
  have hnodup := Entries.nodup_names (Entries.ascending_ofList written)
  refine ⟨e.2, ?_⟩
  rw [hfind, ← heq]
  exact (Entries.find?_eq_some_iff hnodup).2 he

/-- **A document exists exactly if every reference in a definition or in a property of an entity,
at any depth, leads to a definition or an enumeration. Otherwise the error names one that does not.
All references in the document lead to its own components.** -/
theorem references_closed (title : String) (s : Schema) :
    ((∃ d, document title s = .ok d) ↔ ∀ target, s.Mentions target → s.vocabulary.Knows target) ∧
    (∀ e, document title s = .error e →
      ∃ target, e.missing? = some target ∧ s.Mentions target ∧ ¬s.vocabulary.Knows target) ∧
    ∀ d, document title s = .ok d → ∀ target, d.Stores "$ref" (.string target) →
      ∃ name c, target = componentsPath ++ name ∧ findComponent? d name = some c := by
  have hends := ends_document title s
  refine ⟨⟨?_, ?_⟩, fun e h => hends.of_eq_error h, fun d h target hstores => ?_⟩
  · rintro ⟨d, h⟩
    exact (hends.of_eq_ok h).2
  · intro hknown
    cases h : document title s with
    | ok d => exact ⟨d, rfl⟩
    | error e =>
      obtain ⟨target, -, hmentions, hknows⟩ := hends.of_eq_error h
      exact absurd (hknown target hmentions) hknows
  · obtain ⟨name, hname, rfl⟩ := (hends.of_eq_ok h).1 target hstores
    obtain ⟨c, hc⟩ := exists_findComponent?_camel h hname
    exact ⟨Naming.camel name, c, rfl, hc⟩

/-- A model with two definitions that lead to each other. -/
def circle : Schema where
  version := "1"
  metadata := ⟨""⟩
  idSemantics := none
  enums := ∅
  definitions := .ofList
    [("place", .refer "#/definitions/site"), ("site", .arrayOf (.refer "#/definitions/place"))]
  entities := .ofList [("Visit", {
    description := ""
    required := []
    properties := .ofList [("id", .primitive "string"), ("place", .refer "#/definitions/place")]
    relationships := ∅
    naturalKeys := []
    states := none
    invariants := [] })]

/-- Nothing is missing in a circle, so the document of the model exists. -/
theorem references_closed_circle : (∃ d, document "Visits" circle = .ok d) ∧
    ∀ target, circle.Mentions target → circle.vocabulary.Knows target := by
  have hdocument : ∃ d, document "Visits" circle = .ok d := ⟨_, rfl⟩
  exact ⟨hdocument, (references_closed "Visits" circle).1.1 hdocument⟩

end

end OpenApi

end EntityModel
