import EntityModel.Go.File
import EntityModel.Proofs.NameMap
import EntityModel.Proofs.Outcome
import Mathlib.Data.List.Nodup
import Mathlib.Data.List.Infix

/-! # Fields of entities

The Go file of a schema has one struct for every entity, and this struct has one field for every
property of the entity (`Passes.exists_holdsField`). The tag of a field says whether an empty value
is left out. It says so after a comma, and as the name of a field can be declared, no property has a
comma in its name (`comma_notMem`). So the tag says it exactly for the fields that need not be there
(`Field.omitsEmpty_iff`). -/

namespace EntityModel.Go

/-! ## Characters of names -/

/-- A character that may start a name may stand in it. -/
theorem isIdentifierPart_of_isIdentifierStart {c : Char} (h : isIdentifierStart c = true) :
    isIdentifierPart c = true := by
  simp only [isIdentifierStart, isIdentifierPart, Text.isAlphabetic, Text.isAlphanumeric,
    Bool.or_eq_true] at h ⊢
  tauto

/-- Every character of a name that can be declared may stand inside of it. -/
theorem isIdentifierPart_of_mem {name : String} (h : isIdentifier name = true) {c : Char}
    (hc : c ∈ name.toList) : isIdentifierPart c = true := by
  unfold isIdentifier at h
  split at h
  · exact absurd h Bool.false_ne_true
  · rename_i first rest hname
    simp only [Bool.and_eq_true, List.all_eq_true] at h
    rcases List.mem_cons.1 (hname ▸ hc) with rfl | hc
    · exact isIdentifierPart_of_isIdentifierStart h.1.1
    · exact h.1.2 c hc

/-- A character without case that is no letter stands in the camel case of a word. -/
theorem mem_camelWord {word : List Char} {c : Char} (hc : c ∈ word) (hupper : Text.toUpper c = [c])
    (hlower : Text.toLower c = [c]) (hletter : c.isAlpha = false) :
    c ∈ Naming.camelWord word := by
  have hcapitalized : c ∈ Naming.capitalize word := by
    cases word with
    | nil => exact absurd hc List.not_mem_nil
    | cons first rest =>
      rcases List.mem_cons.1 hc with rfl | hc
      · exact List.mem_append_left _ (by simp [hupper])
      · exact List.mem_append_right _ (List.mem_flatMap.2 ⟨c, hc, by simp [hlower]⟩)
  -- The words with a spelling of their own consist of letters.
  have hletters : (Naming.initialisms.all fun e => e.1.all Char.isAlpha) = true := by decide
  have hascii : c.toLower = c := by
    refine dif_neg fun hrange => ?_
    have halpha : c.isAlpha = true := Bool.or_eq_true_iff.2 (.inl (decide_eq_true hrange))
    rw [hletter] at halpha
    exact absurd halpha Bool.false_ne_true
  have hnone : Naming.initialisms.lookup ((Naming.capitalize word).map Char.toLower) = none := by
    refine List.lookup_eq_none_iff.2 fun e he => ?_
    rw [bne_iff_ne]
    intro heq
    have hmem : c ∈ e.1 := heq ▸ List.mem_map.2 ⟨c, hcapitalized, hascii⟩
    have halpha : c.isAlpha = true := List.all_eq_true.1 (List.all_eq_true.1 hletters e he) c hmem
    rw [hletter] at halpha
    exact absurd halpha Bool.false_ne_true
  rw [Naming.camelWord, hnone]
  exact hcapitalized

/-- A character without case that is no letter and separates no words stands in the camel case of a
name. -/
theorem mem_camel {name : String} {c : Char} (hc : c ∈ name.toList)
    (hseparator : Naming.isWordSeparator c = false) (hupper : Text.toUpper c = [c])
    (hlower : Text.toLower c = [c]) (hletter : c.isAlpha = false) :
    c ∈ (Naming.camel name).toList := by
  obtain ⟨word, hword, hmem⟩ := Text.exists_mem_fields hc hseparator
  rw [Naming.camel, String.toList_ofList]
  refine List.mem_flatMap.2 ⟨word, List.mem_filter.2 ⟨hword, ?_⟩,
    mem_camelWord hmem hupper hlower hletter⟩
  cases word with
  | nil => exact absurd hmem List.not_mem_nil
  | cons => rfl

/-- A name whose camel case can be declared has only characters that identifiers have, letters, and
those that separate words. -/
theorem notMem_of_isIdentifier_camel {name : String} (h : isIdentifier (Naming.camel name) = true)
    {c : Char} (hpart : isIdentifierPart c = false) (hseparator : Naming.isWordSeparator c = false)
    (hupper : Text.toUpper c = [c]) (hlower : Text.toLower c = [c]) (hletter : c.isAlpha = false) :
    c ∉ name.toList := by
  intro hc
  have hmem := isIdentifierPart_of_mem h (mem_camel hc hseparator hupper hlower hletter)
  rw [hpart] at hmem
  exact absurd hmem Bool.false_ne_true

/-- A name whose camel case can be declared has no comma. -/
theorem comma_notMem {name : String} (h : isIdentifier (Naming.camel name) = true) :
    ',' ∉ name.toList :=
  notMem_of_isIdentifier_camel h (by decide) (by decide) (by decide) (by decide) (by decide)

/-! ## Tags -/

/-- The tag of the field says that an empty value is left out. -/
def Field.OmitsEmpty (f : Field) : Prop := ",omitempty".toList <:+: f.tag.toList

/-- The text of a tag can be searched. -/
instance (f : Field) : Decidable f.OmitsEmpty := inferInstanceAs (Decidable (_ <:+: _))

/-- The tag says so exactly if the field need not be there. -/
theorem Field.omitsEmpty_iff {f : Field} (h : ',' ∉ f.property.toList) :
    f.OmitsEmpty ↔ f.required = false := by
  cases hrequired : f.required with
  | false =>
    refine iff_of_true ⟨"`json:\"".toList ++ f.property.toList, "\"`".toList, ?_⟩ rfl
    simp [tag, hrequired]
  | true =>
    refine iff_of_false (fun homits => ?_) (by simp)
    have hcomma : ',' ∈ f.tag.toList := homits.subset (by decide)
    simp [tag, hrequired, h] at hcomma

/-! ## Fields of properties -/

/-- A name is accepted exactly if it is an identifier, and is then left as it is. -/
theorem declarable_eq_ok_iff {name result : String} :
    declarable name = .ok result ↔ isIdentifier name = true ∧ result = name := by
  rw [← identifier_eq_ok_iff, declarable]
  cases identifier name <;> simp

/-- The field of a property, if its type and its name are found. -/
theorem field_eq_ok_iff {v : Vocabulary} {isRequired : String → Bool}
    {wrap : String → TypeError → GenerateError} {name : String} {q : Property} {f : Field} :
    typedProperty v isRequired wrap name q >>= field = .ok f ↔
      ∃ type, fieldType v q (isRequired name) = .ok type ∧
        isIdentifier (Naming.camel name) = true ∧
        f = ⟨Naming.camel name, name, type, isRequired name⟩ := by
  unfold typedProperty
  cases htype : fieldType v q (isRequired name) with
  | error e => simp [bind, Except.bind]
  | ok type =>
    simp only [Outcome.bind_eq_ok_iff, Except.ok.injEq, exists_eq_left', field,
      declarable_eq_ok_iff, pure, Except.pure]
    constructor
    · rintro ⟨_, ⟨hname, rfl⟩, rfl⟩
      exact ⟨hname, rfl⟩
    · rintro ⟨hname, rfl⟩
      exact ⟨_, ⟨hname, rfl⟩, rfl⟩

/-- Fields are made one by one from their properties. -/
theorem fields_eq_ok_iff {v : Vocabulary} {isRequired : String → Bool}
    {wrap : String → TypeError → GenerateError} {properties : List (String × Property)}
    {fs : List Field} : fields v isRequired wrap properties = .ok fs ↔
      properties.mapM (fun e => typedProperty v isRequired wrap e.1 e.2 >>= field) = .ok fs :=
  Outcome.bind_mapM_eq_ok_iff

/-- Every property has one field, which carries its name. -/
theorem filter_fields_eq_singleton {v : Vocabulary} {isRequired : String → Bool}
    {wrap : String → TypeError → GenerateError} {properties : NameMap Property}
    {fs : List Field} (h : fields v isRequired wrap properties.entries = .ok fs) {name : String}
    {q : Property} (hq : properties.find? name = some q) :
    ∃ type, fieldType v q (isRequired name) = .ok type ∧
      isIdentifier (Naming.camel name) = true ∧ fs.filter (·.property = name) =
        [⟨Naming.camel name, name, type, isRequired name⟩] := by
  rw [fields_eq_ok_iff] at h
  obtain ⟨f, hf, hstep⟩ := Outcome.exists_result h (NameMap.find?_eq_some_iff.1 hq)
  obtain ⟨type, htype, hname, rfl⟩ := field_eq_ok_iff.1 hstep
  refine ⟨type, htype, hname, ?_⟩
  have hnames : fs.map (·.property) = properties.names :=
    Outcome.map_result_eq h fun e _ f hf => by
      obtain ⟨_, -, -, rfl⟩ := field_eq_ok_iff.1 hf
      rfl
  have hnodup : (fs.map (·.property)).Nodup := hnames ▸ properties.nodup_names
  refine filter_eq_singleton_of_nodup hnodup.of_map hf fun g hg => ?_
  rw [decide_eq_true_iff]
  exact ⟨fun heq => List.inj_on_of_nodup_map hnodup hg hf heq, fun heq => heq ▸ rfl⟩

/-! ## Structs of entities -/

/-- Whether the declaration is the struct of the entity. -/
def Declaration.isStructOf (entity : String) : Declaration → Bool
  | .struct name .entities _ => name = entity
  | _ => false

/-- The file has one struct of the entity, which has one field of the property. -/
def File.HoldsField (f : File) (entity property : String) (field : Field) : Prop :=
  ∃ fields, f.declarations.filter (·.isStructOf entity) = [.struct entity .entities fields] ∧
    fields.filter (·.property = property) = [field]

/-- An enumeration is no struct of an entity. -/
theorem isStructOf_enumeration {name : String} {e : Enumeration} {d : Declaration}
    (h : enumeration name e = .ok d) (entity : String) : d.isStructOf entity = false := by
  obtain ⟨typeName, -, h⟩ := Outcome.bind_eq_ok_iff.1 h
  obtain ⟨constants, -, h⟩ := Outcome.bind_eq_ok_iff.1 h
  obtain rfl := Except.ok.inj h
  rfl

/-- The struct of a definition is no struct of an entity. -/
theorem isStructOf_definitionStruct {v : Vocabulary} {name : String} {q : Property}
    {d : Declaration} (h : definitionStruct v name q = .ok d) (entity : String) :
    d.isStructOf entity = false := by
  obtain ⟨typeName, -, h⟩ := Outcome.bind_eq_ok_iff.1 h
  obtain ⟨fs, -, h⟩ := Outcome.bind_eq_ok_iff.1 h
  obtain rfl := Except.ok.inj h
  rfl

/-- The struct of an entity has its name, and the fields of its properties. -/
theorem entityStruct_eq_ok_iff {v : Vocabulary} {name : String} {e : Entity} {d : Declaration} :
    entityStruct v name e = .ok d ↔ isIdentifier name = true ∧
      ∃ fs, fields v e.isRequired (.property name) e.properties.entries = .ok fs ∧
        d = .struct name .entities fs := by
  simp only [entityStruct, Outcome.bind_eq_ok_iff, declarable_eq_ok_iff, pure, Except.pure,
    Except.ok.injEq]
  constructor
  · rintro ⟨_, ⟨hname, rfl⟩, fs, hfs, rfl⟩
    exact ⟨hname, fs, hfs, rfl⟩
  · rintro ⟨hname, fs, hfs, rfl⟩
    exact ⟨_, ⟨hname, rfl⟩, fs, hfs, rfl⟩

/-! ## Passes -/

/-- What the passes over a schema have found when its file is made. -/
structure Passes (package generator : String) (s : Schema) (f : File) where
  /-- The declarations of the enumerations. -/
  enums : List Declaration
  /-- The structs of the definitions. -/
  definitions : List Declaration
  /-- The structs of the entities. -/
  entities : List Declaration
  isIdentifier_package : isIdentifier package = true
  enums_eq : enumerations s.enums.entries = .ok enums
  definitions_eq : definitionStructs s.vocabulary s.definitions.entries = .ok definitions
  entities_eq : s.entities.entries.mapM (fun e => entityStruct s.vocabulary e.1 e.2) = .ok entities
  file_eq : f = ⟨package, generator, enums ++ definitions ++ entities⟩

/-- A file is made if all the passes succeed. -/
theorem file_eq_ok_iff {package generator : String} {s : Schema} {f : File} :
    file package generator s = .ok f ↔ Nonempty (Passes package generator s f) := by
  simp only [file, Outcome.bind_eq_ok_iff, declarable_eq_ok_iff, pure, Except.pure,
    Except.ok.injEq]
  constructor
  · rintro ⟨_, ⟨hpackage, rfl⟩, enums, henums, definitions, hdefinitions, entities, hentities, rfl⟩
    exact ⟨⟨enums, definitions, entities, hpackage, henums, hdefinitions, hentities, rfl⟩⟩
  · rintro ⟨ps⟩
    exact ⟨_, ⟨ps.isIdentifier_package, rfl⟩, ps.enums, ps.enums_eq, ps.definitions,
      ps.definitions_eq, ps.entities, ps.entities_eq, ps.file_eq.symm⟩

/-- The source code is the text of the file, laid out. -/
theorem generate_eq_ok_iff {package generator : String} {s : Schema} {source : String} :
    generate package generator s = .ok source ↔
      ∃ f, file package generator s = .ok f ∧ layout f.text = .ok source := by
  rw [generate, Outcome.bind_eq_ok_iff]
  refine exists_congr fun f => and_congr_right fun _ => ?_
  cases layout f.text <;> simp [pure, Except.pure]

namespace Passes

variable {package generator : String} {s : Schema} {f : File} (ps : Passes package generator s f)

include ps

/-- No declaration but those of entities is the struct of an entity. -/
theorem filter_isStructOf (entity : String) :
    f.declarations.filter (·.isStructOf entity) = ps.entities.filter (·.isStructOf entity) := by
  have henums : ps.enums.filter (·.isStructOf entity) = [] := by
    refine List.filter_eq_nil_iff.2 fun d hd => ?_
    obtain ⟨⟨name, e⟩, -, hstep⟩ := Outcome.exists_source ps.enums_eq hd
    dsimp only at hstep
    split at hstep
    · rename_i henum
      rw [← Except.ok.inj hstep, isStructOf_enumeration henum]
      exact Bool.false_ne_true
    · cases hstep
  have hdefinitions : ps.definitions.filter (·.isStructOf entity) = [] := by
    refine List.filter_eq_nil_iff.2 fun d hd => ?_
    obtain ⟨⟨name, q⟩, -, hstep⟩ := Outcome.exists_source ps.definitions_eq hd
    rw [isStructOf_definitionStruct hstep]
    exact Bool.false_ne_true
  have hall : f.declarations = ps.enums ++ ps.definitions ++ ps.entities :=
    congrArg File.declarations ps.file_eq
  rw [hall, List.filter_append, List.filter_append, henums, hdefinitions, List.nil_append,
    List.nil_append]

/-- Every entity has one struct. -/
theorem exists_struct {owner : String} {entity : Entity}
    (hentity : s.entities.find? owner = some entity) :
    ∃ fs, fields s.vocabulary entity.isRequired (.property owner) entity.properties.entries =
      .ok fs ∧ f.declarations.filter (·.isStructOf owner) = [.struct owner .entities fs] := by
  have hnodup := s.entities.nodup_names
  obtain ⟨before, after, hsplit⟩ := List.append_of_mem (NameMap.find?_eq_some_iff.1 hentity)
  rw [NameMap.names, Entries.names, hsplit, List.map_append, List.map_cons,
    List.nodup_middle, List.nodup_cons, List.mem_append] at hnodup
  have hentities := ps.entities_eq
  rw [hsplit, Outcome.mapM_append_cons_eq_ok_iff] at hentities
  obtain ⟨front, d, back, hfront, hstruct, hback, hall⟩ := hentities
  obtain ⟨-, fs, hfs, rfl⟩ := entityStruct_eq_ok_iff.1 hstruct
  -- The structs of other entities have other names.
  have hothers : ∀ {others : List (String × Entity)} {ds : List Declaration},
      others.mapM (fun e => entityStruct s.vocabulary e.1 e.2) = .ok ds →
      owner ∉ others.map (·.1) → ds.filter (·.isStructOf owner) = [] := by
    intro others ds hds howner
    refine List.filter_eq_nil_iff.2 fun d hd hstructOf => ?_
    obtain ⟨e, he, hstep⟩ := Outcome.exists_source hds hd
    obtain ⟨-, _, -, rfl⟩ := entityStruct_eq_ok_iff.1 hstep
    exact howner (List.mem_map.2 ⟨e, he, of_decide_eq_true hstructOf⟩)
  refine ⟨fs, hfs, ?_⟩
  rw [ps.filter_isStructOf, hall, List.filter_append,
    hothers hfront fun h => hnodup.1 (.inl h), List.nil_append, List.filter_cons_of_pos (by
      simp [Declaration.isStructOf]), hothers hback fun h => hnodup.1 (.inr h)]

/-- Every property of an entity has one field, which is required if the property is. -/
theorem exists_holdsField {owner name : String} {entity : Entity} {q : Property}
    (hentity : s.entities.find? owner = some entity)
    (hq : entity.properties.find? name = some q) :
    ∃ type, fieldType s.vocabulary q (entity.isRequired name) = .ok type ∧
      isIdentifier (Naming.camel name) = true ∧
      f.HoldsField owner name ⟨Naming.camel name, name, type, entity.isRequired name⟩ := by
  obtain ⟨fs, hfs, hstruct⟩ := ps.exists_struct hentity
  obtain ⟨type, htype, hname, hfield⟩ := filter_fields_eq_singleton hfs hq
  exact ⟨type, htype, hname, fs, hstruct, hfield⟩

end Passes

end EntityModel.Go
