import EntityModel.OpenApi.Text
import EntityModel.Proofs.NameMap
import EntityModel.Proofs.Outcome

/-! # Components of entities

Components of several kinds share their names, and of several with one name the last is kept. The
component for reading an entity is never replaced: all that is written behind it belongs to the same
entity under a longer name, or to entities with greater names (`find?_components`). It requires the
fields that the entity lists, as they are spelled there (`exists_readComponent`). -/

namespace EntityModel

/-! ## Members of values -/

/-- The member of a name, if the value is an object that has one. -/
def Json.Value.member? (name : String) : Json.Value → Option Json.Value
  | .object members => Entries.find? name members
  | _ => none

namespace OpenApi

open Json

/-- The component of a name in a document. -/
def findComponent? (document : Value) (name : String) : Option Value := do
  let components ← document.member? "components"
  let schemas ← components.member? "schemas"
  schemas.member? name

/-- The component lists the field among those that are required. -/
def Requires (component : Value) (field : String) : Prop :=
  ∃ items, component.member? "required" = some (.array items) ∧ .string field ∈ items

/-- The component of an entity requires the fields that it was made with. -/
theorem requires_entityObject {members : List (String × Value)} {required : List String}
    {field : String} : Requires (entityObject members required) field ↔ field ∈ required := by
  cases required with
  | nil => simp [Requires, entityObject, Value.member?, Entries.find?]
  | cons first rest => simp [Requires, entityObject, Value.member?, Entries.find?, Value.strings]

/-! ## Names of components -/

/-- A name comes before itself with a suffix. -/
theorem lt_append {name suffix : String} (h : suffix ≠ "") : name < name ++ suffix := by
  have hle : name ≤ name ++ suffix := by
    refine String.not_lt.1 fun hlt => ?_
    have hchars : (name ++ suffix).toList < name.toList := hlt
    rw [String.toList_append] at hchars
    exact List.not_lt.2 List.le_append_left hchars
  refine String.not_le.1 fun hge => h ?_
  have heq : name ++ suffix = name ++ "" := by
    rw [String.append_empty]
    exact String.le_antisymm hge hle
  exact (String.append_right_inj _).1 heq

/-- The components of an entity with their names. -/
def EntityComponents.named (name : String) (c : EntityComponents) : List (String × Value) :=
  [(name, c.read), (name ++ "Create", c.create), (name ++ "Update", c.update)]

/-- Behind the component for reading, an entity has components with greater names. -/
theorem lt_of_mem_tail_named {name : String} {c : EntityComponents} :
    ∀ e ∈ (c.named name).tail, name < e.1 := by
  simp only [EntityComponents.named, List.tail_cons, List.mem_cons, List.not_mem_nil, or_false]
  rintro e (rfl | rfl)
  · exact lt_append (by decide)
  · exact lt_append (by decide)

/-! ## Components of schemas -/

section

variable {v : Vocabulary} {entities : List (String × Entity)} {components : List (String × Value)}

/-- The components of entities are made entity by entity, under three names each. -/
theorem allEntityComponents_eq_ok_iff : allEntityComponents v entities = .ok components ↔
    ∃ groups, entities.mapM (fun e => do
        let c ← entityComponents v e.1 e.2
        return c.named e.1) = .ok groups ∧ components = groups.flatten := by
  simp only [allEntityComponents, Outcome.bind_eq_ok_iff, pure, Except.pure, Except.ok.injEq,
    eq_comm (a := components)]
  rfl

/-- Where all entities have greater names than a given one, so have their components. -/
theorem lt_of_mem_allEntityComponents (h : allEntityComponents v entities = .ok components)
    {name : String} (hlt : ∀ e ∈ entities, name < e.1) : ∀ e ∈ components, name < e.1 := by
  intro e he
  obtain ⟨groups, hgroups, rfl⟩ := allEntityComponents_eq_ok_iff.1 h
  obtain ⟨group, hgroup, he⟩ := List.mem_flatten.1 he
  obtain ⟨entity, hentity, hstep⟩ := Outcome.exists_source hgroups hgroup
  obtain ⟨c, -, hc⟩ := Outcome.bind_eq_ok_iff.1 hstep
  obtain rfl := Except.ok.inj hc
  rcases List.mem_cons.1 he with rfl | he
  · exact hlt entity hentity
  · exact String.lt_trans (hlt entity hentity) (lt_of_mem_tail_named e he)

end

/-- Every entity has its component for reading. -/
theorem find?_components {s : Schema} {m : NameMap Value} (h : components s = .ok m) {name : String}
    {e : Entity} (he : s.entities.find? name = some e) :
    ∃ c, entityComponents s.vocabulary name e = .ok c ∧ m.find? name = some c.read := by
  obtain ⟨definitions, -, h⟩ := Outcome.bind_eq_ok_iff.1 h
  obtain ⟨entities, hentities, hm⟩ := Outcome.bind_eq_ok_iff.1 h
  obtain rfl := Except.ok.inj hm
  obtain ⟨before, after, hsplit⟩ := List.append_of_mem (NameMap.find?_eq_some_iff.1 he)
  have hascending := s.entities.ascending
  rw [hsplit] at hascending hentities
  obtain ⟨groups, hgroups, rfl⟩ := allEntityComponents_eq_ok_iff.1 hentities
  obtain ⟨front, group, back, -, hgroup, hback, rfl⟩ :=
    Outcome.mapM_append_cons_eq_ok_iff.1 hgroups
  obtain ⟨c, hc, hnamed⟩ := Outcome.bind_eq_ok_iff.1 hgroup
  obtain rfl := Except.ok.inj hnamed
  refine ⟨c, hc, ?_⟩
  -- What is put in later has greater names, so it does not replace the component.
  have hlater : ∀ e' ∈ back.flatten, name < e'.1 :=
    lt_of_mem_allEntityComponents (allEntityComponents_eq_ok_iff.2 ⟨back, hback, rfl⟩)
      (List.pairwise_cons.1 (List.pairwise_append.1 hascending).2.1).1
  have hbehind : ∀ e' ∈ (c.named name).tail ++ back.flatten, name < e'.1 := by
    intro e' he'
    rcases List.mem_append.1 he' with he' | he'
    · exact lt_of_mem_tail_named e' he'
    · exact hlater e' he'
  have hnotMem : name ∉ Entries.names ((c.named name).tail ++ back.flatten) := by
    intro hmem
    obtain ⟨e', he', heq⟩ := List.mem_map.1 hmem
    exact String.lt_irrefl _ (heq ▸ hbehind e' he')
  rw [List.flatten_append, List.flatten_cons, ← List.append_assoc]
  exact Entries.find?_ofList_of_notMem hnotMem

/-! ## Documents -/

/-- A component of a document is the one that was made under its name. -/
theorem findComponent?_document {title : String} {s : Schema} {document : Value}
    (h : OpenApi.document title s = .ok document) :
    ∃ m, components s = .ok m ∧ ∀ name, findComponent? document name = m.find? name := by
  obtain ⟨m, hm, h⟩ := Outcome.bind_eq_ok_iff.1 h
  obtain rfl := Except.ok.inj h
  exact ⟨m, hm, fun name => rfl⟩

/-- Every entity has a component for reading, which requires the fields that the entity lists. -/
theorem exists_readComponent {title : String} {s : Schema} {document : Value}
    (h : OpenApi.document title s = .ok document) {name : String} {e : Entity}
    (he : s.entities.find? name = some e) :
    ∃ read, findComponent? document name = some read ∧
      ∀ field, Requires read field ↔ field ∈ e.required := by
  obtain ⟨m, hm, hfind⟩ := findComponent?_document h
  obtain ⟨c, hc, hread⟩ := find?_components hm he
  refine ⟨c.read, (hfind name).trans hread, fun field => ?_⟩
  obtain ⟨members, -, hc⟩ := Outcome.bind_eq_ok_iff.1 hc
  obtain rfl := Except.ok.inj hc
  exact requires_entityObject

/-- The text of a document is its encoding under the banner. -/
theorem generate_eq_ok_iff {title : String} {banner : Banner} {s : Schema} {text : String} :
    generate title banner s = .ok text ↔ ∃ document, OpenApi.document title s = .ok document ∧
      text = bannerText banner ++ Yaml.encode document := by
  rw [generate, Outcome.bind_eq_ok_iff]
  simp [pure, Except.pure, eq_comm]

end OpenApi

end EntityModel
