import EntityModel.Proofs.OpenApi.Components
import Mathlib.Data.List.Pairwise

/-! # Names of components

Enumerations and definitions name their components in camel case; entities give theirs their own
name and two longer ones. Different names can make one name of a component, and of the components
with one name only the last stays in the document. `complete_iff` says when nothing is lost. -/

namespace EntityModel.OpenApi

open Json

/-! ## What components are made of -/

/-- What a component of a document is made of. -/
inductive ComponentSource where
  /-- An enumeration. -/
  | enumeration (name : String) (e : Enumeration)
  /-- A definition. -/
  | definition (name : String) (p : Property)
  /-- What is read of an entity. -/
  | read (name : String) (e : Entity)
  /-- What is sent to create an entity. -/
  | create (name : String) (e : Entity)
  /-- What is sent to update an entity. -/
  | update (name : String) (e : Entity)

namespace ComponentSource

/-- The name of the component. -/
def componentName : ComponentSource → String
  | .enumeration name _ => Naming.camel name
  | .definition name _ => Naming.camel name
  | .read name _ => name
  | .create name _ => name ++ "Create"
  | .update name _ => name ++ "Update"

/-- The component itself. -/
def build (v : Vocabulary) : ComponentSource → Except GenerateError Value
  | .enumeration _ e => .ok (enumComponent e)
  | .definition name p => (component v p).mapError (.definition name)
  | .read name e => EntityComponents.read <$> entityComponents v name e
  | .create name e => EntityComponents.create <$> entityComponents v name e
  | .update name e => EntityComponents.update <$> entityComponents v name e

/-- The component with its name. -/
def named (v : Vocabulary) (source : ComponentSource) : Except GenerateError (String × Value) := do
  let value ← source.build v
  return (source.componentName, value)

/-- A source gives a component under its name. -/
theorem named_eq_ok_iff {v : Vocabulary} {source : ComponentSource} {e : String × Value} :
    source.named v = .ok e ↔ e.1 = source.componentName ∧ source.build v = .ok e.2 := by
  rw [named, Outcome.bind_eq_ok_iff]
  constructor
  · rintro ⟨value, hvalue, he⟩
    obtain rfl := Except.ok.inj he
    exact ⟨rfl, hvalue⟩
  · rintro ⟨hname, hvalue⟩
    exact ⟨e.2, hvalue, by rw [← hname]; rfl⟩

/-- The components of an entity. -/
def ofEntity (name : String) (e : Entity) : List ComponentSource :=
  [.read name e, .create name e, .update name e]

end ComponentSource

/-- What the components of a schema are made of, in the order in which they are written. -/
def sources (s : Schema) : List ComponentSource :=
  s.enums.entries.map (fun e => .enumeration e.1 e.2) ++
    s.definitions.entries.map (fun e => .definition e.1 e.2) ++
    s.entities.entries.flatMap fun e => ComponentSource.ofEntity e.1 e.2

/-- Every enumeration and every definition has one source, and every entity three. -/
theorem length_sources (s : Schema) : (sources s).length =
    s.enums.entries.length + s.definitions.entries.length + 3 * s.entities.entries.length := by
  simp [sources, ComponentSource.ofEntity, List.length_flatMap]
  omega

/-- The components of a schema are those of its sources, and of several with one name the last. -/
theorem exists_mapM_named {s : Schema} {m : NameMap Value} (h : components s = .ok m) :
    ∃ written, (sources s).mapM (ComponentSource.named s.vocabulary) = .ok written ∧
      m = NameMap.ofList written := by
  obtain ⟨definitions, hdefinitions, h⟩ := Outcome.bind_eq_ok_iff.1 h
  obtain ⟨entities, hentities, hm⟩ := Outcome.bind_eq_ok_iff.1 h
  obtain rfl := Except.ok.inj hm
  obtain ⟨groups, hgroups, rfl⟩ := allEntityComponents_eq_ok_iff.1 hentities
  -- The three passes write their components one after another, as the sources are listed.
  refine ⟨_, Outcome.mapM_eq_ok_iff.2 ?_, rfl⟩
  refine List.rel_append (List.rel_append ?enumerations ?definitions) ?entities
  case enumerations =>
    rw [enumComponents, List.forall₂_map_left_iff, List.forall₂_map_right_iff, List.forall₂_same]
    exact fun e _ => rfl
  case definitions =>
    rw [List.forall₂_map_left_iff]
    refine (Outcome.mapM_eq_ok_iff.1 hdefinitions).imp fun e named hnamed => ?_
    rw [ComponentSource.named_eq_ok_iff, ComponentSource.build]
    cases hvalue : component s.vocabulary e.2 with
    | error problem => simp [hvalue] at hnamed
    | ok value =>
      simp only [hvalue, Except.ok.injEq] at hnamed
      rw [← hnamed]
      exact ⟨rfl, rfl⟩
  case entities =>
    rw [List.flatMap_def]
    refine List.rel_flatten (List.forall₂_map_left_iff.2 ?_)
    refine (Outcome.mapM_eq_ok_iff.1 hgroups).imp fun e group hgroup => ?_
    obtain ⟨c, hc, hgroup⟩ := Outcome.bind_eq_ok_iff.1 hgroup
    obtain rfl := Except.ok.inj hgroup
    refine .cons ?_ (.cons ?_ (.cons ?_ .nil)) <;>
    · rw [ComponentSource.named_eq_ok_iff, ComponentSource.build, hc]
      exact ⟨rfl, rfl⟩

/-! ## Names that are distinct -/

/-- The names of the components of an entity. -/
def entityNames (name : String) : List String := [name, name ++ "Create", name ++ "Update"]

/-- What is created is never called like what is updated. -/
theorem append_create_ne_append_update (name other : String) :
    name ++ "Create" ≠ other ++ "Update" := by
  intro heq
  have htext := congrArg String.toList heq
  rw [String.toList_append, String.toList_append] at htext
  have hsuffix := (List.append_inj' htext (by simp)).2
  exact absurd (String.toList_inj.1 hsuffix) (by decide)

/-- A name differs from itself with a suffix. -/
theorem ne_append {name suffix : String} (h : suffix ≠ "") : name ≠ name ++ suffix := by
  intro heq
  have hlt : name < name ++ suffix := lt_append h
  rw [← heq] at hlt
  exact String.lt_irrefl _ hlt

/-- The three names of an entity differ. -/
theorem nodup_entityNames (name : String) : (entityNames name).Nodup := by
  have hcreate : name ≠ name ++ "Create" := ne_append (by decide)
  have hupdate : name ≠ name ++ "Update" := ne_append (by decide)
  simp [entityNames, hcreate, hupdate]

/-- No two components of entities have one name exactly if no entity is called like what is sent
to create or update another. -/
theorem nodup_flatMap_entityNames_iff {names : List String} (h : names.Nodup) :
    (names.flatMap entityNames).Nodup ↔
      ∀ name ∈ names, name ++ "Create" ∉ names ∧ name ++ "Update" ∉ names := by
  rw [List.nodup_flatMap, and_iff_right fun name _ => nodup_entityNames name]
  constructor
  · intro hdisjoint name hname
    have : Std.Symm (Function.onFun List.Disjoint entityNames) :=
      ⟨fun _ _ hab _ hb ha => hab ha hb⟩
    have hpairs := hdisjoint.forall
    constructor
    · exact fun hmem => hpairs hname hmem (ne_append (by decide)) (.tail _ (.head _)) (.head _)
    · exact fun hmem => hpairs hname hmem (ne_append (by decide)) (.tail _ (.tail _ (.head _)))
        (.head _)
  · intro hsent
    -- Two names that are made in the same way come from one entity.
    refine h.imp_of_mem fun {a b} ha hb hne name hnameA hnameB => ?_
    simp only [entityNames, List.mem_cons, List.not_mem_nil, or_false] at hnameA hnameB
    rcases hnameA with rfl | rfl | rfl <;> rcases hnameB with heq | heq | heq
    · exact hne heq
    · exact (hsent b hb).1 (heq ▸ ha)
    · exact (hsent b hb).2 (heq ▸ ha)
    · exact (hsent a ha).1 (heq ▸ hb)
    · exact hne ((String.append_left_inj _).1 heq)
    · exact append_create_ne_append_update _ _ heq
    · exact (hsent a ha).2 (heq ▸ hb)
    · exact append_create_ne_append_update _ _ heq.symm
    · exact hne ((String.append_left_inj _).1 heq)

/-- No two components of the schema have one name. -/
structure OwnNames (s : Schema) : Prop where
  /-- Enumerations and definitions differ in camel case too. -/
  camel : ((s.enums.names ++ s.definitions.names).map Naming.camel).Nodup
  /-- None of them is called like a component of an entity in camel case. -/
  entity : ∀ name ∈ s.enums.names ++ s.definitions.names, ∀ entity ∈ s.entities.names,
    Naming.camel name ∉ entityNames entity
  /-- No entity is called like what is sent to create or update another. -/
  sent : ∀ entity ∈ s.entities.names,
    entity ++ "Create" ∉ s.entities.names ∧ entity ++ "Update" ∉ s.entities.names

/-- The names of components are those of enumerations and definitions in camel case, and the three
of each entity. -/
theorem map_componentName_sources (s : Schema) :
    (sources s).map ComponentSource.componentName =
      (s.enums.names ++ s.definitions.names).map Naming.camel ++
        s.entities.names.flatMap entityNames := by
  simp only [sources, NameMap.names, Entries.names, List.map_append, List.map_map,
    List.map_flatMap, List.flatMap_map]
  rfl

/-- Components have names of their own exactly if no name of a source is there twice. -/
theorem ownNames_iff {s : Schema} :
    OwnNames s ↔ ((sources s).map ComponentSource.componentName).Nodup := by
  rw [map_componentName_sources, List.nodup_append',
    nodup_flatMap_entityNames_iff s.entities.nodup_names]
  constructor
  · rintro ⟨hcamel, hentity, hsent⟩
    refine ⟨hcamel, hsent, fun name hname hmem => ?_⟩
    obtain ⟨source, hsource, rfl⟩ := List.mem_map.1 hname
    obtain ⟨entity, hmember, hmem⟩ := List.mem_flatMap.1 hmem
    exact hentity source hsource entity hmember hmem
  · rintro ⟨hcamel, hsent, hdisjoint⟩
    refine ⟨hcamel, fun name hname entity hentity hmem => ?_, hsent⟩
    exact hdisjoint (List.mem_map_of_mem hname) (List.mem_flatMap.2 ⟨entity, hentity, hmem⟩)

/-! ## Documents without losses -/

/-- The components of a document with their names. -/
def schemas (document : Value) : List (String × Value) :=
  match (document.member? "components").bind (Value.member? "schemas") with
  | some (.object members) => members
  | _ => []

/-- The value is a reference, and under the name in it stands the component. -/
def LeadsTo (document reference component : Value) : Prop :=
  ∃ name, reference = .object [("$ref", .string (componentsPath ++ name))] ∧
    findComponent? document name = some component

/-- Every component of the schema is in the document under its name, and every reference to an
enumeration or a definition leads to its component. -/
structure Complete (s : Schema) (document : Value) : Prop where
  /-- Under the name of every component stands the component that is made for this name. -/
  held : ∀ source ∈ sources s, ∃ value, source.build s.vocabulary = .ok value ∧
    findComponent? document source.componentName = some value
  /-- There is one component for every enumeration and definition, and three for every entity. -/
  count : (schemas document).length =
    s.enums.entries.length + s.definitions.entries.length + 3 * s.entities.entries.length
  /-- References to enumerations lead to their components. -/
  enumeration : ∀ target name, s.vocabulary.resolveReference target = .ok (.enumeration name) →
    ∃ e value, s.enums.find? name = some e ∧ reference s.vocabulary target = .ok value ∧
      LeadsTo document value (enumComponent e)
  /-- References to definitions lead to their components. -/
  definition : ∀ target name, s.vocabulary.resolveReference target = .ok (.definition name) →
    ∃ p value c, s.definitions.find? name = some p ∧ reference s.vocabulary target = .ok value ∧
      component s.vocabulary p = .ok c ∧ LeadsTo document value c

/-- A target that means an enumeration leads to one that exists. -/
theorem exists_find?_of_enumeration {v : Vocabulary} {target name : String}
    (h : v.resolveReference target = .ok (.enumeration name)) :
    ∃ e, v.enums.find? name = some e := by
  unfold Vocabulary.resolveReference at h
  split at h
  · split at h <;> cases h
  · split at h
    · rename_i hcontains
      cases h
      exact Option.isSome_iff_exists.1 hcontains
    · cases h
  · cases h

/-- A target that means a definition leads to one that exists. -/
theorem exists_find?_of_definition {v : Vocabulary} {target name : String}
    (h : v.resolveReference target = .ok (.definition name)) :
    ∃ p, v.definitions.find? name = some p := by
  unfold Vocabulary.resolveReference at h
  split at h
  · split at h
    · rename_i hcontains
      cases h
      exact Option.isSome_iff_exists.1 hcontains
    · cases h
  · split at h <;> cases h
  · cases h

section

variable {title : String} {s : Schema} {document : Value}
  (h : OpenApi.document title s = .ok document)

include h

/-- The components of a document are those of the sources, and of several with one name the last. -/
theorem exists_written : ∃ written,
    (sources s).mapM (ComponentSource.named s.vocabulary) = .ok written ∧
      Entries.names written = (sources s).map ComponentSource.componentName ∧
      schemas document = Entries.ofList written ∧
      ∀ name, findComponent? document name = Entries.find? name (Entries.ofList written) := by
  obtain ⟨m, hm, h⟩ := Outcome.bind_eq_ok_iff.1 h
  obtain rfl := Except.ok.inj h
  obtain ⟨written, hwritten, rfl⟩ := exists_mapM_named hm
  refine ⟨written, hwritten, ?_, rfl, fun name => rfl⟩
  exact Outcome.map_result_eq hwritten fun _ _ _ hnamed =>
    (ComponentSource.named_eq_ok_iff.1 hnamed).1

/-- The last of the components with one name is in the document. -/
theorem exists_build_of_notMem {before after : List ComponentSource} {source : ComponentSource}
    (hsplit : sources s = before ++ source :: after)
    (hnotMem : source.componentName ∉ after.map ComponentSource.componentName) :
    ∃ value, source.build s.vocabulary = .ok value ∧
      findComponent? document source.componentName = some value := by
  obtain ⟨written, hwritten, -, -, hfind⟩ := exists_written h
  rw [hsplit] at hwritten
  obtain ⟨front, ⟨name, value⟩, back, -, hnamed, hback, rfl⟩ :=
    Outcome.mapM_append_cons_eq_ok_iff.1 hwritten
  obtain ⟨rfl, hvalue⟩ := ComponentSource.named_eq_ok_iff.1 hnamed
  refine ⟨value, hvalue, (hfind _).trans (Entries.find?_ofList_of_notMem ?_)⟩
  rwa [Entries.names, Outcome.map_result_eq hback fun _ _ _ hnamed =>
    (ComponentSource.named_eq_ok_iff.1 hnamed).1]

/-- There are as many components as sources exactly if these have names of their own. -/
theorem length_schemas_eq_iff : (schemas document).length =
    s.enums.entries.length + s.definitions.entries.length + 3 * s.entities.entries.length ↔
      OwnNames s := by
  obtain ⟨written, -, hnames, hschemas, -⟩ := exists_written h
  have hlength : (sources s).length = written.length := by
    rw [← List.length_map (f := ComponentSource.componentName), ← hnames, Entries.names,
      List.length_map]
  rw [hschemas, ← length_sources, hlength, ownNames_iff, ← hnames]
  exact Entries.length_ofList_eq_iff

/-- Where components have names of their own, the document is complete. -/
theorem complete_of_ownNames (hown : OwnNames s) : Complete s document := by
  -- No other source has the name, so none that comes later replaces the component.
  have hheld : ∀ source ∈ sources s, ∃ value, source.build s.vocabulary = .ok value ∧
      findComponent? document source.componentName = some value := by
    intro source hsource
    obtain ⟨before, after, hsplit⟩ := List.append_of_mem hsource
    have hnodup := ownNames_iff.1 hown
    rw [hsplit, List.map_append, List.map_cons] at hnodup
    exact exists_build_of_notMem h hsplit
      (List.nodup_cons.1 (List.nodup_append.1 hnodup).2.1).1
  refine ⟨hheld, (length_schemas_eq_iff h).2 hown, fun target name hresolve => ?_,
    fun target name hresolve => ?_⟩
  · obtain ⟨e, he⟩ := exists_find?_of_enumeration hresolve
    have hmem : ComponentSource.enumeration name e ∈ sources s :=
      List.mem_append_left _ (List.mem_append_left _
        (List.mem_map.2 ⟨_, NameMap.find?_eq_some_iff.1 he, rfl⟩))
    obtain ⟨value, hvalue, hfind⟩ := hheld _ hmem
    obtain rfl := Except.ok.inj hvalue
    exact ⟨e, referenceTo name, he, by rw [reference, hresolve], _, rfl, hfind⟩
  · obtain ⟨p, hp⟩ := exists_find?_of_definition hresolve
    have hmem : ComponentSource.definition name p ∈ sources s :=
      List.mem_append_left _ (List.mem_append_right _
        (List.mem_map.2 ⟨_, NameMap.find?_eq_some_iff.1 hp, rfl⟩))
    obtain ⟨value, hvalue, hfind⟩ := hheld _ hmem
    have hcomponent : component s.vocabulary p = .ok value := by
      rw [ComponentSource.build] at hvalue
      cases hp : component s.vocabulary p with
      | error problem => simp [hp, Except.mapError] at hvalue
      | ok c => simpa [hp, Except.mapError] using hvalue
    exact ⟨p, referenceTo name, value, hp, by rw [reference, hresolve], hcomponent, _, rfl, hfind⟩

/-- **No component is lost exactly if no two of them have one name.** Of the components with one
name the last is in the document. -/
theorem complete_iff :
    (∀ before source after, sources s = before ++ source :: after →
      source.componentName ∉ after.map ComponentSource.componentName →
      ∃ value, source.build s.vocabulary = .ok value ∧
        findComponent? document source.componentName = some value) ∧
      (Complete s document ↔ OwnNames s) :=
  ⟨fun _ _ _ hsplit hnotMem => exists_build_of_notMem h hsplit hnotMem,
    fun hcomplete => (length_schemas_eq_iff h).1 hcomplete.count, complete_of_ownNames h⟩

end

/-- An entity with the name of an enumeration in camel case. -/
def statusEntity : Entity where
  description := ""
  required := []
  properties := .ofList [("id", .primitive "string"), ("state", .refer "#/enums/status")]
  relationships := ∅
  naturalKeys := []
  states := none
  invariants := []

/-- A model with an enumeration `status` and an entity `Status`. -/
def statusSchema : Schema where
  version := "1"
  metadata := ⟨""⟩
  idSemantics := none
  enums := .ofList [("status", ⟨["open", "closed"], "", "", []⟩)]
  definitions := ∅
  entities := .ofList [("Status", statusEntity)]

/-- What the entity refers to as the enumeration `status` is the entity itself. -/
theorem complete_iff_status : ∃ document, OpenApi.document "Statuses" statusSchema = .ok document ∧
    (∃ value,
      (ComponentSource.read "Status" statusEntity).build statusSchema.vocabulary = .ok value ∧
      LeadsTo document (referenceTo "status") value) ∧
    ¬Complete statusSchema document := by
  obtain ⟨document, hdocument⟩ :
      ∃ document, OpenApi.document "Statuses" statusSchema = .ok document := ⟨_, rfl⟩
  have hcamel : Naming.camel "status" = "Status" := by decide +kernel
  obtain ⟨hlast, hcomplete⟩ := complete_iff hdocument
  obtain ⟨value, hvalue, hfind⟩ := hlast [.enumeration "status" ⟨["open", "closed"], "", "", []⟩]
    (.read "Status" statusEntity) [.create "Status" statusEntity, .update "Status" statusEntity]
    rfl (by decide)
  refine ⟨document, hdocument, ⟨value, hvalue, Naming.camel "status", rfl, ?_⟩, fun h => ?_⟩
  · rw [hcamel]
    exact hfind
  · refine (hcomplete.1 h).entity "status" (.head _) "Status" (.head _) ?_
    rw [hcamel]
    exact .head _

end EntityModel.OpenApi
