import EntityModel.Proofs.OpenApi.References

/-! # What is read and what is sent

The component for reading an entity shows all its properties and marks those that the server manages
as read-only. The components for creating and updating it leave these out. No component of a
property is read-only by itself, so that nothing that is sent is (`document_entity`). The components
for creating and updating can be lost to entities that are called like them, the one for reading
never (`keepsComponents_iff`). -/

namespace EntityModel.OpenApi

open Json

/-! ## Members of components -/

/-- The names that members of the components of properties have, in ascending order. -/
def keywords : List String :=
  ["$ref", "additionalProperties", "format", "items", "properties", "required", "type"]

/-- The value is an object, and its members have some of the names, in ascending order. -/
def HasKeywords (value : Value) : Prop :=
  ∃ ms, value = .object ms ∧ (Entries.names ms).Sublist keywords

/-- The component of a primitive type has keywords only. -/
theorem hasKeywords_primitive (p : Primitive) : HasKeywords (primitive p) := by
  obtain ⟨kind, format⟩ := p
  refine ⟨_, rfl, ?_⟩
  cases format <;> simp [Entries.names, keywords]

/-- The component of an array has keywords only. -/
theorem hasKeywords_arrayOf (items : Value) : HasKeywords (arrayOf items) := by
  refine ⟨_, rfl, ?_⟩
  simp only [Entries.names, keywords, List.map_cons, List.map_nil]
  decide

/-- The component of an object has keywords only. -/
theorem hasKeywords_objectOf (values : List (String × Value)) (required : List String)
    (additional : Option Bool) : HasKeywords (objectOf values required additional) := by
  refine ⟨_, rfl, ?_⟩
  cases additional <;> cases values <;> cases required <;>
    simp [Entries.names, keywords] <;> decide

/-- The component of a reference has one keyword. -/
theorem hasKeywords_reference {v : Vocabulary} {target : String} {c : Value}
    (h : reference v target = .ok c) : HasKeywords c := by
  unfold reference at h
  split at h <;> cases h
  · exact ⟨_, rfl, by simp [Entries.names, keywords]⟩
  · exact ⟨_, rfl, by simp [Entries.names, keywords]⟩
  · exact ⟨[], rfl, List.nil_sublist _⟩

/-- The component of a property has keywords only. -/
theorem hasKeywords_component {v : Vocabulary} {p : Property} {c : Value}
    (h : component v p = .ok c) : HasKeywords c := by
  have hempty : HasKeywords (.object []) := ⟨[], rfl, List.nil_sublist _⟩
  obtain ⟨type, format, target, about, items, properties, required, additional⟩ := p
  -- The cases of the definition: what is inside the component does not matter for its names.
  unfold component at h
  split at h
  case h_1 => exact hasKeywords_reference h
  case h_2 =>
    split at h
    case h_1 =>
      split at h
      · exact Except.ok.inj h ▸ hempty
      · obtain ⟨values, -, h⟩ := Outcome.bind_eq_ok_iff.1 h
        exact Except.ok.inj h ▸ hasKeywords_objectOf _ _ _
    case h_2 name =>
      split at h
      · exact Except.ok.inj h ▸ hasKeywords_primitive _
      · split at h
        · split at h
          · obtain ⟨item, -, rfl⟩ := Outcome.map_eq_ok_iff.1 h
            exact hasKeywords_arrayOf item
          · exact Except.ok.inj h ▸ hasKeywords_arrayOf _
        · split at h
          · obtain ⟨values, -, h⟩ := Outcome.bind_eq_ok_iff.1 h
            exact Except.ok.inj h ▸ hasKeywords_objectOf _ _ _
          · exact Except.ok.inj h ▸ hempty

/-- A component with keywords only is not marked as read-only. -/
theorem HasKeywords.readOnly_eq_none {c : Value} (h : HasKeywords c) :
    c.member? "readOnly" = none := by
  obtain ⟨ms, rfl, hsublist⟩ := h
  rw [Value.member?, Entries.find?_eq_none_iff]
  exact fun hmem => absurd (hsublist.subset hmem) (by decide)

/-! ## Marks -/

/-- The second object is the first one with `readOnly: true` at its place among the members, which
are in ascending order. -/
def IsMarked (value marked : Value) : Prop :=
  ∃ before after, value = .object (before ++ after) ∧
    marked = .object (before ++ ("readOnly", .bool true) :: after) ∧
    Entries.Ascending (before ++ ("readOnly", .bool true) :: after)

/-- The mark is put at its place among the keywords. -/
theorem HasKeywords.isMarked {c : Value} (h : HasKeywords c) : IsMarked c (markReadOnly c) := by
  obtain ⟨ms, rfl, hsublist⟩ := h
  have hnotMem : "readOnly" ∉ Entries.names ms := fun hmem =>
    absurd (hsublist.subset hmem) (by decide)
  have hascending : Entries.Ascending ms :=
    List.pairwise_map.1 (List.Pairwise.sublist hsublist (by decide : keywords.Pairwise (· < ·)))
  obtain ⟨before, after, hms, hinsert⟩ :=
    Entries.exists_insert_eq_append hnotMem (.bool true : Value)
  refine ⟨before, after, congrArg _ hms, congrArg _ hinsert, ?_⟩
  rw [← hinsert]
  exact Entries.ascending_insert _ _ hascending

/-- What is marked is read-only. -/
theorem IsMarked.readOnly_eq {value marked : Value} (h : IsMarked value marked) :
    marked.member? "readOnly" = some (.bool true) := by
  obtain ⟨before, after, -, rfl, hascending⟩ := h
  rw [Value.member?, Entries.find?_eq_some_iff (Entries.nodup_names hascending)]
  exact List.mem_append_right _ List.mem_cons_self

/-! ## What is shown and what is sent -/

/-- The component of the property is shown under its name, and marked if the server manages it. -/
structure IsShown (v : Vocabulary) (p : String × Property) (shown : String × Value) : Prop where
  /-- It has the name of the property. -/
  name : shown.1 = p.1
  /-- A property that the server does not manage is shown as it is. -/
  same : p.1 ∉ serverManaged → component v p.2 = .ok shown.2
  /-- A property that the server manages is marked. -/
  marked : p.1 ∈ serverManaged → ∃ c, component v p.2 = .ok c ∧ IsMarked c shown.2
  /-- Only then it is read-only. -/
  readOnly : shown.2.member? "readOnly" =
    if p.1 ∈ serverManaged then some (.bool true) else none

/-- The members that the server does not manage. -/
def unmanaged (members : List (String × Value)) : List (String × Value) :=
  members.filter fun m => m.1 ∉ serverManaged

/-- What is read, sent to create and sent to update an entity, with the properties that are read and
the fields that are required to create it. -/
structure EntityComponents.Treats (c : EntityComponents) (v : Vocabulary) (e : Entity)
    (properties : List (String × Value)) (required : List String) : Prop where
  /-- All properties of the entity are read, and no others. -/
  shown : List.Forall₂ (IsShown v) e.properties.entries properties
  /-- What is read. -/
  read : c.read.member? "properties" = some (.object properties)
  /-- What the server does not manage is sent to create the entity. -/
  create : c.create.member? "properties" = some (.object (unmanaged properties))
  /-- The same is sent to update it. -/
  update : c.update.member? "properties" = some (.object (unmanaged properties))
  /-- Nothing that is sent is read-only. -/
  sent : ∀ m ∈ unmanaged properties, m.2.member? "readOnly" = none
  /-- What is required to create the entity is in ascending order. -/
  sorted : required.Pairwise (· ≤ ·)
  /-- It is what the entity requires and the server does not manage in any spelling, each field as
  often as the entity lists it. -/
  perm : required.Perm (e.required.filter fun field =>
    ∀ managed ∈ serverManaged, ¬Text.equalIgnoringCase field managed)
  /-- It is listed if there is any. -/
  createRequired : c.create.member? "required" =
    if required = [] then none else some (.strings required)
  /-- Nothing is required to update the entity. -/
  updateRequired : c.update.member? "required" = none

/-- The component of an entity has the members that it was made with. -/
theorem properties_entityObject (ms : List (String × Value)) (required : List String) :
    (entityObject ms required).member? "properties" = some (.object ms) := rfl

/-- The component of an entity lists its required fields if there are any. -/
theorem required_entityObject (ms : List (String × Value)) (required : List String) :
    (entityObject ms required).member? "required" =
      if required = [] then none else some (.strings required) := by
  cases required <;> rfl

/-- The fields that are required to create an entity are in order. -/
theorem sorted_createRequired (required : List String) :
    (createRequired required).Pairwise (· ≤ ·) := by
  refine (List.pairwise_mergeSort ?_ ?_ _).imp of_decide_eq_true
  · intro a b c hab hbc
    exact decide_eq_true (String.le_trans (of_decide_eq_true hab) (of_decide_eq_true hbc))
  · intro a b
    simpa using String.le_total a b

/-- The fields that are required to create an entity are those that the server does not manage. -/
theorem createRequired_perm (required : List String) :
    (createRequired required).Perm (required.filter fun field =>
      ∀ managed ∈ serverManaged, ¬Text.equalIgnoringCase field managed) := by
  refine (List.mergeSort_perm _ _).trans (List.Perm.of_eq (List.filter_congr fun field _ => ?_))
  simp [serverManaged]

section

variable {v : Vocabulary} {name : String} {e : Entity}

/-- The member as it is read. -/
def shownMember (m : String × Value) : String × Value :=
  (m.1, if m.1 ∈ serverManaged then markReadOnly m.2 else m.2)

/-- A member is shown as the component of its property, marked if the server manages it. -/
theorem isShown_shownMember {p : String × Property} {c : Value} (h : component v p.2 = .ok c) :
    IsShown v p (shownMember (p.1, c)) := by
  have hkeywords := hasKeywords_component h
  rw [shownMember]
  by_cases hmanaged : p.1 ∈ serverManaged
  · have hmarked := hkeywords.isMarked
    rw [if_pos hmanaged]
    refine ⟨rfl, fun hnot => absurd hmanaged hnot, fun _ => ⟨c, h, hmarked⟩, ?_⟩
    rw [if_pos hmanaged, hmarked.readOnly_eq]
  · rw [if_neg hmanaged]
    refine ⟨rfl, fun _ => h, fun hmem => absurd hmem hmanaged, ?_⟩
    rw [if_neg hmanaged, hkeywords.readOnly_eq_none]

/-- What is sent is not changed by the marks on the rest. -/
theorem unmanaged_map_shownMember (ms : List (String × Value)) :
    unmanaged (ms.map shownMember) = unmanaged ms := by
  rw [unmanaged, List.filter_map]
  refine (List.map_congr_left fun m hm => ?_).trans (List.map_id _)
  have hnot : m.1 ∉ serverManaged := of_decide_eq_true (List.mem_filter.1 hm).2
  rw [shownMember, if_neg hnot, id]

/-- Every member is the component of the property beside it. -/
theorem entityMember_eq_ok_iff {p : String × Property} {m : String × Value} :
    (p.1, ·) <$> (component v p.2).mapError
        (fun x => GenerateError.property name p.1 (.unresolved x)) = .ok m ↔
      m.1 = p.1 ∧ component v p.2 = .ok m.2 := by
  simp only [Outcome.map_eq_ok_iff, Outcome.mapError_eq_ok_iff]
  constructor
  · rintro ⟨c, hc, rfl⟩
    exact ⟨rfl, hc⟩
  · rintro ⟨hname, hc⟩
    exact ⟨m.2, hc, by rw [← hname]⟩

/-- The components of an entity treat its properties and its required fields as they have to. -/
theorem exists_treats {c : EntityComponents} (h : entityComponents v name e = .ok c) :
    ∃ properties required, c.Treats v e properties required := by
  obtain ⟨ms, hms, h⟩ := Outcome.bind_eq_ok_iff.1 h
  obtain rfl := Except.ok.inj h
  rw [entityMembers_eq_mapM] at hms
  -- Marking and leaving out do not depend on each other, so all three show the marked members.
  have hread : (ms.map fun m =>
      if serverManaged.contains m.1 then (m.1, markReadOnly m.2) else m) = ms.map shownMember := by
    refine List.map_congr_left fun m _ => ?_
    by_cases hmem : m.1 ∈ serverManaged <;> simp [shownMember, hmem]
  have hsent : ms.filter (!serverManaged.contains ·.1) = unmanaged (ms.map shownMember) := by
    rw [unmanaged_map_shownMember]
    exact List.filter_congr fun m _ => by simp
  refine ⟨ms.map shownMember, createRequired e.required, ?_⟩
  constructor
  case shown =>
    rw [List.forall₂_map_right_iff]
    refine (Outcome.mapM_eq_ok_iff.1 hms).imp fun p m hm => ?_
    obtain ⟨hname, hcomponent⟩ := entityMember_eq_ok_iff.1 hm
    obtain ⟨key, value⟩ := m
    obtain rfl : key = p.1 := hname
    exact isShown_shownMember hcomponent
  case read => exact hread ▸ properties_entityObject _ _
  case create => exact hsent ▸ properties_entityObject _ _
  case update => exact hsent ▸ properties_entityObject _ _
  case sent =>
    intro m hm
    rw [unmanaged_map_shownMember] at hm
    obtain ⟨p, -, hp⟩ := Outcome.exists_source hms (List.mem_filter.1 hm).1
    exact (hasKeywords_component (entityMember_eq_ok_iff.1 hp).2).readOnly_eq_none
  case sorted => exact sorted_createRequired _
  case perm => exact createRequired_perm _
  case createRequired => exact required_entityObject _ _
  case updateRequired => exact required_entityObject _ []

end

/-! ## Names that are kept -/

/-- No component that is written behind those of the entity has the name of one of them. -/
def KeepsComponents (s : Schema) (name : String) : Prop :=
  ∃ before e after, sources s = before ++ ComponentSource.ofEntity name e ++ after ∧
    ∀ source ∈ after, source.componentName ∉ entityNames name

/-- The sources of a schema have a component to be read for every entity. -/
theorem read_mem_sources_iff {s : Schema} {name : String} {e : Entity} :
    ComponentSource.read name e ∈ sources s ↔ s.entities.find? name = some e := by
  rw [NameMap.find?_eq_some_iff]
  simp [sources, ComponentSource.ofEntity]

/-- An entity with a greater name has a component of the same name only if it is called like what is
sent to create or to update the first one. -/
theorem disjoint_entityNames_iff {name other : String} (hlt : name < other) :
    (entityNames name).Disjoint (entityNames other) ↔
      other ≠ name ++ "Create" ∧ other ≠ name ++ "Update" := by
  have hne : name ≠ other := fun heq => String.lt_irrefl _ (heq ▸ hlt)
  have hbehind (suffix : String) (h : suffix ≠ "") : other ++ suffix ≠ name := fun heq =>
    String.lt_irrefl _ (heq ▸ String.lt_trans hlt (lt_append h))
  have hpair : [name, other].Nodup := by simpa using hne
  have hiff := nodup_flatMap_entityNames_iff hpair
  simp only [List.flatMap_cons, List.flatMap_nil, List.append_nil, List.nodup_append',
    nodup_entityNames, true_and] at hiff
  simp [hiff, hbehind, ne_append, eq_comm (b := other)]

/-- What the components of entities are made of, in their order. -/
def sourcesOf (es : List (String × Entity)) : List ComponentSource :=
  es.flatMap fun e => ComponentSource.ofEntity e.1 e.2

/-- The sources of entities have a component to be read for each one. -/
theorem read_mem_sourcesOf_iff {es : List (String × Entity)} {name : String} {e : Entity} :
    .read name e ∈ sourcesOf es ↔ (name, e) ∈ es := by
  simp [sourcesOf, ComponentSource.ofEntity]

/-- No source has a name of the entity exactly if the names of the others are different. -/
theorem componentName_notMem_iff {es : List (String × Entity)} {name : String} :
    (∀ source ∈ sourcesOf es, source.componentName ∉ entityNames name) ↔
      ∀ o ∈ es, (entityNames name).Disjoint (entityNames o.1) := by
  simp only [sourcesOf, List.forall_mem_flatMap]
  refine forall₂_congr fun o _ => ?_
  rw [List.disjoint_comm, List.Disjoint]
  simp [entityNames, ComponentSource.ofEntity, ComponentSource.componentName]

section

variable {s : Schema} {name : String} {e : Entity} {front back : List (String × Entity)}
  (hsplit : s.entities.entries = front ++ (name, e) :: back)

include hsplit

/-- The entities behind the entity have greater names. -/
theorem lt_of_mem_back : ∀ o ∈ back, name < o.1 := by
  have hascending := s.entities.ascending
  rw [hsplit] at hascending
  exact (List.pairwise_cons.1 (List.pairwise_append.1 hascending).2.1).1

/-- The entities in front of the entity have smaller names. -/
theorem lt_of_mem_front : ∀ o ∈ front, o.1 < name := by
  have hascending := s.entities.ascending
  rw [hsplit] at hascending
  exact fun o ho => (List.pairwise_append.1 hascending).2.2 o ho (name, e) List.mem_cons_self

/-- The components of an entity stand in one place, before those of the entities behind it. -/
theorem exists_sources_eq_append : ∃ before,
    sources s = before ++ ComponentSource.ofEntity name e ++ sourcesOf back ∧
      ∀ before' e' after', sources s = before' ++ ComponentSource.ofEntity name e' ++ after' →
        after' = sourcesOf back := by
  set before := s.enums.entries.map (fun e => ComponentSource.enumeration e.1 e.2) ++
    s.definitions.entries.map (fun e => .definition e.1 e.2) ++ sourcesOf front with hbefore
  have hsources : sources s = before ++ ComponentSource.ofEntity name e ++ sourcesOf back := by
    simp [sources, sourcesOf, hsplit, hbefore]
  refine ⟨before, hsources, fun before' e' after' hsources' => ?_⟩
  -- The entity is read in one place only, so two ways of splitting the sources there are the same.
  have hfront : .read name e' ∉ before := by
    have hnotMem : (name, e') ∉ front := fun hmem =>
      String.lt_irrefl name (lt_of_mem_front hsplit (name, e') hmem)
    simp [hbefore, read_mem_sourcesOf_iff, hnotMem]
  have hback : .read name e' ∉ .create name e :: .update name e :: sourcesOf back := by
    have hnotMem : (name, e') ∉ back := fun hmem =>
      String.lt_irrefl name (lt_of_mem_back hsplit (name, e') hmem)
    simp [read_mem_sourcesOf_iff, hnotMem]
  have hone : before ++ .read name e :: (.create name e :: .update name e :: sourcesOf back) =
      before' ++ .read name e' :: (.create name e' :: .update name e' :: after') := by
    simpa [ComponentSource.ofEntity] using hsources.symm.trans hsources'
  obtain ⟨-, -, hrest⟩ := (List.append_cons_inj_of_notMem hfront hback).1 hone
  exact (List.cons.inj (List.cons.inj hrest).2).2.symm

/-- The components of an entity are lost only to entities with greater names. -/
theorem keepsComponents_iff_disjoint : KeepsComponents s name ↔
    ∀ o ∈ back, (entityNames name).Disjoint (entityNames o.1) := by
  rw [← componentName_notMem_iff]
  obtain ⟨before, hsources, hunique⟩ := exists_sources_eq_append hsplit
  constructor
  · rintro ⟨before', e', after', hsources', h⟩
    rwa [← hunique before' e' after' hsources']
  · exact fun h => ⟨before, e, sourcesOf back, hsources, h⟩

/-- An entity with a longer name stands behind. -/
theorem append_mem_names_iff {suffix : String} (h : suffix ≠ "") :
    name ++ suffix ∈ s.entities.names ↔ ∃ o ∈ back, o.1 = name ++ suffix := by
  have hlt : name < name ++ suffix := lt_append h
  rw [NameMap.names, hsplit, Entries.names, List.mem_map]
  constructor
  · rintro ⟨o, ho, heq⟩
    rcases List.mem_append.1 ho with ho | ho
    · exact absurd (heq ▸ lt_of_mem_front hsplit o ho) (String.lt_asymm hlt)
    · rcases List.mem_cons.1 ho with rfl | ho
      · exact absurd heq (ne_append h)
      · exact ⟨o, ho, heq⟩
  · rintro ⟨o, ho, heq⟩
    exact ⟨o, List.mem_append_right _ (List.mem_cons_of_mem _ ho), heq⟩

/-- What is sent to create or to update an entity is lost exactly to an entity that is called like
it. -/
theorem keepsComponents_iff : KeepsComponents s name ↔
    name ++ "Create" ∉ s.entities.names ∧ name ++ "Update" ∉ s.entities.names := by
  rw [keepsComponents_iff_disjoint hsplit, append_mem_names_iff hsplit (by decide),
    append_mem_names_iff hsplit (by decide)]
  simp only [not_exists, not_and, ← forall_and]
  exact forall₂_congr fun o ho => disjoint_entityNames_iff (lt_of_mem_back hsplit o ho)

end

/-! ## Documents -/

section

variable {title : String} {s : Schema} {d : Value} (h : document title s = .ok d)

include h

/-- Each component of an entity is in the document, if none that is written later has its name: the
names of the three differ. -/
theorem exists_build_of_ofEntity {before after front back : List ComponentSource} {name : String}
    {e : Entity} (hsources : sources s = before ++ ComponentSource.ofEntity name e ++ after)
    (hafter : ∀ source ∈ after, source.componentName ∉ entityNames name) {source : ComponentSource}
    (hentity : ComponentSource.ofEntity name e = front ++ source :: back) :
    ∃ value, source.build s.vocabulary = .ok value ∧
      findComponent? d source.componentName = some value := by
  have hnames : entityNames name = front.map ComponentSource.componentName ++
      source.componentName :: back.map ComponentSource.componentName := by
    rw [← List.map_cons, ← List.map_append, ← hentity]
    rfl
  have hnodup := nodup_entityNames name
  have hsplit : sources s = (before ++ front) ++ source :: (back ++ after) := by
    simp [hsources, hentity]
  refine exists_build_of_notMem h hsplit fun hmem => ?_
  rw [List.map_append, List.mem_append] at hmem
  rw [hnames] at hnodup hafter
  -- The name could be taken by the other two of the entity, or by what is written later.
  rcases hmem with hback | hmem
  · exact (List.nodup_cons.1 (List.nodup_append.1 hnodup).2.1).1 hback
  · obtain ⟨other, hother, heq⟩ := List.mem_map.1 hmem
    refine hafter other hother ?_
    rw [heq]
    exact List.mem_append_right _ List.mem_cons_self

/-- **What is read of an entity are all its properties, those that the server manages marked as
read-only; what is sent to create or to update it are the others, as they are.** Creating it
requires what the entity requires but for what the server manages in any spelling, updating it
requires nothing. -/
theorem document_entity {name : String} {e : Entity} (he : s.entities.find? name = some e)
    (hkept : KeepsComponents s name) :
    ∃ c : EntityComponents, findComponent? d name = some c.read ∧
      findComponent? d (name ++ "Create") = some c.create ∧
      findComponent? d (name ++ "Update") = some c.update ∧
      ∃ properties required, c.Treats s.vocabulary e properties required := by
  obtain ⟨before, e', after, hsources, hafter⟩ := hkept
  have hmem : ComponentSource.read name e' ∈ sources s := by
    rw [hsources]
    exact List.mem_append_left _ (List.mem_append_right _ List.mem_cons_self)
  obtain rfl := Option.some.inj (he.symm.trans (read_mem_sources_iff.1 hmem))
  have hofRead : ComponentSource.ofEntity name e =
      [] ++ .read name e :: [.create name e, .update name e] := rfl
  have hofCreate : ComponentSource.ofEntity name e =
      [.read name e] ++ .create name e :: [.update name e] := rfl
  have hofUpdate : ComponentSource.ofEntity name e =
      [.read name e, .create name e] ++ .update name e :: [] := rfl
  obtain ⟨read, hbuild, hread⟩ := exists_build_of_ofEntity h hsources hafter hofRead
  obtain ⟨create, hbuild', hcreate⟩ := exists_build_of_ofEntity h hsources hafter hofCreate
  obtain ⟨update, hbuild'', hupdate⟩ := exists_build_of_ofEntity h hsources hafter hofUpdate
  -- All three are made of the components of the same entity.
  obtain ⟨c, hc, rfl⟩ := Outcome.map_eq_ok_iff.1 hbuild
  obtain ⟨c', hc', rfl⟩ := Outcome.map_eq_ok_iff.1 hbuild'
  obtain ⟨c'', hc'', rfl⟩ := Outcome.map_eq_ok_iff.1 hbuild''
  obtain rfl := Except.ok.inj (hc.symm.trans hc')
  obtain rfl := Except.ok.inj (hc.symm.trans hc'')
  exact ⟨c, hread, hcreate, hupdate, exists_treats hc⟩

end

/-- Accounts that require their key, in capitals, and the name twice. -/
def account : Entity where
  description := ""
  required := ["name", "ID", "email", "name"]
  properties := .ofList [("created_at", .primitive "string"), ("email", .primitive "string"),
    ("id", .primitive "string"), ("name", .primitive "string")]
  relationships := ∅
  naturalKeys := []
  states := none
  invariants := []

/-- A model of accounts. -/
def accounts : Schema where
  version := "1"
  metadata := ⟨""⟩
  idSemantics := none
  enums := ∅
  definitions := ∅
  entities := .ofList [("Account", account)]

/-- Creating an account requires the address and, twice, the name. -/
theorem document_entity_account : ∃ d, document "Accounts" accounts = .ok d ∧
    accounts.entities.find? "Account" = some account ∧ KeepsComponents accounts "Account" ∧
    ∃ c : EntityComponents, findComponent? d "AccountCreate" = some c.create ∧
      c.create.member? "required" = some (.strings ["email", "name", "name"]) ∧
      ∃ properties, c.Treats accounts.vocabulary account properties ["email", "name", "name"] := by
  obtain ⟨d, hd⟩ : ∃ d, document "Accounts" accounts = .ok d := ⟨_, rfl⟩
  have hfind : accounts.entities.find? "Account" = some account := rfl
  have hkept : KeepsComponents accounts "Account" := by
    have hsplit : accounts.entities.entries = [] ++ ("Account", account) :: [] := rfl
    exact (keepsComponents_iff hsplit).2 (by decide)
  obtain ⟨c, -, hcreate, -, properties, required, htreats⟩ := document_entity hd hfind hkept
  have hfilter : account.required.filter (fun field =>
      ∀ managed ∈ serverManaged, ¬Text.equalIgnoringCase field managed) =
      ["name", "email", "name"] := by decide
  have hperm : required.Perm ["email", "name", "name"] := by
    have hswap : ["name", "email", "name"].Perm ["email", "name", "name"] := .swap _ _ _
    exact (hfilter ▸ htreats.perm).trans hswap
  obtain rfl : required = ["email", "name", "name"] :=
    hperm.eq_of_pairwise (fun _ _ _ _ => String.le_antisymm) htreats.sorted (by decide)
  exact ⟨d, hd, hfind, hkept, c, hcreate, htreats.createRequired, properties, htreats⟩

end EntityModel.OpenApi
