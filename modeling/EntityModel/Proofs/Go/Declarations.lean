import EntityModel.Proofs.Go.Text
import EntityModel.Proofs.Go.Types
import Mathlib.Data.List.Pairwise

/-! # Names of declarations

The names of a Go file come from four sources: enumerations, the values of enumerations, definitions
and entities. All but the last ones are put into camel case, and the name of a constant is joined
from two of them, so different names of a schema may become one name of the file. Every name is
checked by itself and none of them against the others: a file declares every name once exactly if
the schema says so (`declaresOnce_iff`). -/

namespace EntityModel.Go

/-! ## Names of files -/

/-- The names that a file declares in its package, in their order. -/
def File.names (f : File) : List String := f.declarations.flatMap (·.names)

/-- No name is declared twice, neither in the package nor in a struct. -/
structure File.DeclaresOnce (f : File) : Prop where
  /-- The names of the package are distinct. -/
  names : f.names.Nodup
  /-- The fields of every struct have distinct names. -/
  fields : ∀ d ∈ f.declarations, (d.fields.map (·.name)).Nodup

/-! ## Names of schemas -/

/-- The names of the definitions that have types of their own. -/
def structNames (s : Schema) : List String :=
  (s.definitions.entries.filter fun d => isStructDefinition d.2).map (·.1)

/-- The names of the types of a schema. -/
def typeNames (s : Schema) : List String :=
  (s.enums.names ++ structNames s).map Naming.camel ++ s.entities.names

/-- The names of the constants of an enumeration. -/
def constantNames (name : String) (e : Enumeration) : List String :=
  e.values.map fun value => Naming.camel name ++ Naming.camel value

/-- The names of the fields of properties. -/
def fieldNames (properties : List (String × Property)) : List String :=
  properties.map fun e => Naming.camel e.1

/-- No two names of a schema become one name of its file. -/
structure OwnNames (s : Schema) : Prop where
  /-- Enumerations, definitions and entities give distinct names to their types. -/
  types : (typeNames s).Nodup
  /-- The values of an enumeration are distinct in camel case. -/
  values : ∀ name e, s.enums.find? name = some e → (e.values.map Naming.camel).Nodup
  /-- Two enumerations have no constant in common. -/
  constants : ∀ name e other e', s.enums.find? name = some e → s.enums.find? other = some e' →
    name ≠ other → (constantNames name e).Disjoint (constantNames other e')
  /-- No constant is called like a type. -/
  constantTypes : ∀ name e, s.enums.find? name = some e →
    (constantNames name e).Disjoint (typeNames s)
  /-- The members of a definition with a type of its own are distinct in camel case. -/
  members : ∀ name p, s.definitions.find? name = some p → isStructDefinition p = true →
    (fieldNames p.properties).Nodup
  /-- The properties of an entity are distinct in camel case. -/
  properties : ∀ name e, s.entities.find? name = some e → (fieldNames e.properties.entries).Nodup

/-- The constants of an enumeration are distinct if its values are, in camel case. -/
theorem nodup_constantNames_iff {name : String} {e : Enumeration} :
    (constantNames name e).Nodup ↔ (e.values.map Naming.camel).Nodup := by
  have hmap : constantNames name e = (e.values.map Naming.camel).map (Naming.camel name ++ ·) := by
    rw [List.map_map]
    rfl
  rw [hmap, List.nodup_map_iff]
  exact fun a b h => (String.append_right_inj _).1 h

/-- The constants of all enumerations are distinct if those of each are, and no two enumerations
have one in common. -/
theorem nodup_flatMap_constantNames_iff (s : Schema) :
    (s.enums.entries.flatMap fun e => constantNames e.1 e.2).Nodup ↔
      (∀ name e, s.enums.find? name = some e → (e.values.map Naming.camel).Nodup) ∧
      ∀ name e other e', s.enums.find? name = some e → s.enums.find? other = some e' →
        name ≠ other → (constantNames name e).Disjoint (constantNames other e') := by
  rw [List.nodup_flatMap]
  refine and_congr ?_ ?_
  · simp only [nodup_constantNames_iff, NameMap.find?_eq_some_iff, Prod.forall]
  · have hsymm : Std.Symm (Function.onFun List.Disjoint fun e : String × Enumeration =>
        constantNames e.1 e.2) := ⟨fun _ _ hab _ hb ha => hab ha hb⟩
    simp only [NameMap.find?_eq_some_iff]
    constructor
    · intro hpairs name e other e' he he' hne
      have hentries : (name, e) ≠ (other, e') := fun heq => hne (congrArg Prod.fst heq)
      have hdisjoint := hpairs.forall he he' hentries
      exact hdisjoint
    · intro hdisjoint
      refine (List.pairwise_map.1 s.enums.nodup_names).imp_of_mem fun {a b} ha hb hne => ?_
      exact hdisjoint a.1 a.2 b.1 b.2 ha hb hne

/-! ## Names of declarations -/

section

variable {v : Vocabulary} {name : String} {d : Declaration}

/-- The declaration of an enumeration has its name in camel case. -/
theorem enumeration_eq_ok {e : Enumeration} (h : enumeration name e = .ok d) :
    ∃ constants, d = .enumeration (Naming.camel name) name constants ∧
      constants.map (·.name) = constantNames name e := by
  obtain ⟨typeName, htype, h⟩ := Outcome.bind_eq_ok_iff.1 h
  obtain ⟨constants, hconstants, h⟩ := Outcome.bind_eq_ok_iff.1 h
  obtain rfl := Except.ok.inj h
  obtain ⟨-, rfl⟩ := identifier_eq_ok_iff.1 htype
  refine ⟨constants, rfl, Outcome.map_result_eq hconstants fun value _ c hc => ?_⟩
  dsimp only [constant] at hc
  split at hc
  · cases hc
  · obtain ⟨c', hc', hc⟩ := Outcome.bind_eq_ok_iff.1 hc
    obtain rfl := Except.ok.inj hc
    exact (identifier_eq_ok_iff.1 hc').2

/-- The enumerations are declared one by one, and an error names the enumeration that it is
about. -/
theorem enumerations_eq_mapM (enums : List (String × Enumeration)) :
    enumerations enums = enums.mapM fun e =>
      (enumeration e.1 e.2).mapError (.enumeration e.1) := by
  refine congrArg (enums.mapM ·) (funext fun ⟨name, e⟩ => ?_)
  cases h : enumeration name e <;> simp only [h] <;> rfl

/-- The fields of properties have their names in camel case. -/
theorem map_name_fields {isRequired : String → Bool}
    {wrap : String → TypeError → GenerateError} {properties : List (String × Property)}
    {fs : List Field} (h : fields v isRequired wrap properties = .ok fs) :
    fs.map (·.name) = fieldNames properties :=
  Outcome.map_result_eq (fields_eq_ok_iff.1 h) fun e _ f hf => by
    obtain ⟨_, -, -, rfl⟩ := field_eq_ok_iff.1 hf
    rfl

/-- The struct of a definition has its name in camel case, and the fields of its members. -/
theorem definitionStruct_eq_ok {p : Property} (h : definitionStruct v name p = .ok d) :
    ∃ fs, fields v p.isRequired (.definitionProperty name) p.properties = .ok fs ∧
      d = .struct (Naming.camel name) .definitions fs := by
  obtain ⟨typeName, htype, h⟩ := Outcome.bind_eq_ok_iff.1 h
  obtain ⟨fs, hfs, h⟩ := Outcome.bind_eq_ok_iff.1 h
  obtain rfl := Except.ok.inj h
  obtain ⟨-, rfl⟩ := declarable_eq_ok_iff.1 htype
  exact ⟨fs, hfs, rfl⟩

/-- An enumeration declares its type and a constant for each value, and has no fields. -/
theorem names_of_enumeration {e : Enumeration} (h : enumeration name e = .ok d) :
    d.names = Naming.camel name :: constantNames name e ∧ d.fields = [] := by
  obtain ⟨constants, rfl, hconstants⟩ := enumeration_eq_ok h
  exact ⟨congrArg (Naming.camel name :: ·) hconstants, rfl⟩

/-- The struct of a definition declares one name, and has a field for each property. -/
theorem names_of_definitionStruct {p : Property} (h : definitionStruct v name p = .ok d) :
    d.names = [Naming.camel name] ∧ d.fields.map (·.name) = fieldNames p.properties := by
  obtain ⟨fs, hfs, rfl⟩ := definitionStruct_eq_ok h
  exact ⟨rfl, map_name_fields hfs⟩

/-- The struct of an entity is named as the entity, and has a field for each property. -/
theorem names_of_entityStruct {e : Entity} (h : entityStruct v name e = .ok d) :
    d.names = [name] ∧ d.fields.map (·.name) = fieldNames e.properties.entries := by
  obtain ⟨-, fs, hfs, rfl⟩ := entityStruct_eq_ok_iff.1 h
  exact ⟨rfl, map_name_fields hfs⟩

end

namespace Passes

variable {package generator : String} {s : Schema} {f : File} (ps : Passes package generator s f)

include ps

/-- The declarations of a file are those of the three passes. -/
theorem declarations_eq : f.declarations = ps.enums ++ ps.definitions ++ ps.entities :=
  congrArg File.declarations ps.file_eq

/-- What the first pass has found, declared one by one. -/
theorem enums_eq_mapM : s.enums.entries.mapM (fun e =>
    (enumeration e.1 e.2).mapError (GenerateError.enumeration e.1)) = .ok ps.enums :=
  (enumerations_eq_mapM _).symm.trans ps.enums_eq

/-- The names that the enumerations declare. -/
theorem names_enums : ps.enums.map (·.names) =
    s.enums.entries.map fun e => Naming.camel e.1 :: constantNames e.1 e.2 :=
  Outcome.map_result_eq ps.enums_eq_mapM fun _ _ _ hd =>
    (names_of_enumeration (Outcome.mapError_eq_ok_iff.1 hd)).1

/-- The names that the structs of the definitions declare. -/
theorem names_definitions :
    ps.definitions.map (·.names) = (structNames s).map fun name => [Naming.camel name] := by
  rw [structNames, List.map_map]
  exact Outcome.map_result_eq ps.definitions_eq fun d _ _ hd => (names_of_definitionStruct hd).1

/-- The names that the structs of the entities declare. -/
theorem names_entities : ps.entities.map (·.names) = s.entities.names.map fun name => [name] := by
  rw [NameMap.names, Entries.names, List.map_map]
  exact Outcome.map_result_eq ps.entities_eq fun e _ _ hd => (names_of_entityStruct hd).1

/-- The names of a file are those of its types and those of its constants. -/
theorem names_perm : f.names.Perm
    (typeNames s ++ s.enums.entries.flatMap fun e => constantNames e.1 e.2) := by
  have henums : (ps.enums.map (·.names)).flatten.Perm
      (s.enums.names.map Naming.camel ++
        s.enums.entries.flatMap fun e => constantNames e.1 e.2) := by
    rw [ps.names_enums, ← List.flatMap_def, NameMap.names, Entries.names, List.map_map]
    exact (List.map_append_flatMap_perm _ _ _).symm
  have hdefinitions : (ps.definitions.map (·.names)).flatten =
      (structNames s).map Naming.camel := by
    rw [ps.names_definitions, ← List.flatMap_def, List.map_eq_flatMap]
  have hentities : (ps.entities.map (·.names)).flatten = s.entities.names := by
    rw [ps.names_entities, ← List.flatMap_def, List.flatMap_singleton']
  rw [File.names, ps.declarations_eq, List.flatMap_append, List.flatMap_append, List.flatMap_def,
    List.flatMap_def, List.flatMap_def, hdefinitions, hentities]
  refine ((henums.append_right _).append_right _).trans ?_
  rw [typeNames, List.map_append, List.append_assoc, List.append_assoc, List.append_assoc,
    List.append_assoc, ← List.append_assoc _ s.entities.names]
  exact List.perm_append_comm.append_left _

/-- Every struct has distinct fields exactly if the properties of every definition with a struct,
and of every entity, are distinct in camel case. -/
theorem nodup_fields_iff : (∀ d ∈ f.declarations, (d.fields.map (·.name)).Nodup) ↔
    (∀ name p, s.definitions.find? name = some p → isStructDefinition p = true →
      (fieldNames p.properties).Nodup) ∧
    ∀ name e, s.entities.find? name = some e → (fieldNames e.properties.entries).Nodup := by
  rw [ps.declarations_eq]
  constructor
  · intro h
    constructor
    · intro name p hp hstruct
      -- The second pass has made a struct of the definition, and the third one of the entity.
      obtain ⟨d, hd, hstep⟩ := Outcome.exists_result ps.definitions_eq
        (List.mem_filter.2 ⟨NameMap.find?_eq_some_iff.1 hp, hstruct⟩)
      rw [← (names_of_definitionStruct hstep).2]
      exact h d (List.mem_append_left _ (List.mem_append_right _ hd))
    · intro name e he
      obtain ⟨d, hd, hstep⟩ := Outcome.exists_result ps.entities_eq
        (NameMap.find?_eq_some_iff.1 he)
      rw [← (names_of_entityStruct hstep).2]
      exact h d (List.mem_append_right _ hd)
  · rintro ⟨hmembers, hproperties⟩ d hd
    rcases List.mem_append.1 hd with hd | hd
    · rcases List.mem_append.1 hd with hd | hd
      · obtain ⟨e, -, hstep⟩ := Outcome.exists_source ps.enums_eq_mapM hd
        -- Enumerations have no fields.
        rw [(names_of_enumeration (Outcome.mapError_eq_ok_iff.1 hstep)).2]
        exact .nil
      · obtain ⟨⟨name, p⟩, hmem, hstep⟩ := Outcome.exists_source ps.definitions_eq hd
        obtain ⟨hp, hstruct⟩ := List.mem_filter.1 hmem
        rw [(names_of_definitionStruct hstep).2]
        exact hmembers name p (NameMap.find?_eq_some_iff.2 hp) hstruct
    · obtain ⟨⟨name, e⟩, he, hstep⟩ := Outcome.exists_source ps.entities_eq hd
      rw [(names_of_entityStruct hstep).2]
      exact hproperties name e (NameMap.find?_eq_some_iff.2 he)

/-- A file declares every name once exactly if no two names of its schema become one. -/
theorem declaresOnce_iff_ownNames : f.DeclaresOnce ↔ OwnNames s := by
  have hnames : f.names.Nodup ↔ (typeNames s).Nodup ∧
      (s.enums.entries.flatMap fun e => constantNames e.1 e.2).Nodup ∧
      ∀ name e, s.enums.find? name = some e →
        (constantNames name e).Disjoint (typeNames s) := by
    rw [ps.names_perm.nodup_iff, List.nodup_append']
    refine and_congr_right fun _ => and_congr_right fun _ => ?_
    constructor
    · intro hdisjoint name e he constant hconstant htype
      exact hdisjoint htype
        (List.mem_flatMap.2 ⟨(name, e), NameMap.find?_eq_some_iff.1 he, hconstant⟩)
    · intro hdisjoint constant htype hconstant
      obtain ⟨⟨name, e⟩, he, hconstant⟩ := List.mem_flatMap.1 hconstant
      exact hdisjoint name e (NameMap.find?_eq_some_iff.2 he) hconstant htype
  rw [nodup_flatMap_constantNames_iff] at hnames
  constructor
  · rintro ⟨h, hfields⟩
    obtain ⟨htypes, ⟨hvalues, hconstants⟩, hdisjoint⟩ := hnames.1 h
    obtain ⟨hmembers, hproperties⟩ := ps.nodup_fields_iff.1 hfields
    exact ⟨htypes, hvalues, hconstants, hdisjoint, hmembers, hproperties⟩
  · rintro ⟨htypes, hvalues, hconstants, hdisjoint, hmembers, hproperties⟩
    exact ⟨hnames.2 ⟨htypes, ⟨hvalues, hconstants⟩, hdisjoint⟩,
      ps.nodup_fields_iff.2 ⟨hmembers, hproperties⟩⟩

end Passes

/-- **A file declares every name once exactly if no two names of the schema become one of its
names.** Nothing is checked for this when a file is made. -/
theorem declaresOnce_iff {package generator source : String} {s : Schema}
    (h : generate package generator s = .ok source) :
    ∃ f, file package generator s = .ok f ∧ layout f.text = .ok source ∧
      (f.DeclaresOnce ↔ OwnNames s) := by
  obtain ⟨f, hf, hsource⟩ := generate_eq_ok_iff.1 h
  obtain ⟨ps⟩ := file_eq_ok_iff.1 hf
  exact ⟨f, hf, hsource, ps.declaresOnce_iff_ownNames⟩

/-- A model with a definition `address` that has members, and an entity `Address`. -/
def addresses : Schema where
  version := "1"
  metadata := ⟨""⟩
  idSemantics := none
  enums := ∅
  definitions := .ofList [("address", { Property.primitive "object" with
    properties := [("street", .primitive "string")]
    required := ["street"] })]
  entities := .ofList [("Address", {
    description := ""
    required := []
    properties := .ofList [("id", .primitive "string")]
    relationships := ∅
    naturalKeys := []
    states := none
    invariants := [] })]

/-- The Go file of `addresses`. -/
def addressesFile : File where
  package := "models"
  generator := "entitygen"
  declarations := [.struct "Address" .definitions [⟨"Street", "street", .string, true⟩],
    .struct "Address" .entities [⟨"ID", "id", .pointer .string, false⟩]]

/-- The definition and the entity both become a struct `Address`. -/
theorem file_addresses : file "models" "entitygen" addresses = .ok addressesFile := by
  have hdefinition : definitionStructs addresses.vocabulary addresses.definitions.entries =
      .ok [.struct "Address" .definitions [⟨"Street", "street", .string, true⟩]] := by
    refine Outcome.mapM_eq_ok_iff.2 (.cons ?_ .nil)
    refine Outcome.bind_eq_ok_iff.2 ⟨"Address", by decide, ?_⟩
    refine Outcome.bind_eq_ok_iff.2 ⟨_, fields_eq_ok_iff.2
      (Outcome.mapM_eq_ok_iff.2 (.cons ?_ .nil)), rfl⟩
    exact field_eq_ok_iff.2 ⟨_, fieldType_text _ _, by decide, by decide⟩
  have hentity : addresses.entities.entries.mapM
      (fun e => entityStruct addresses.vocabulary e.1 e.2) =
        .ok [.struct "Address" .entities [⟨"ID", "id", .pointer .string, false⟩]] := by
    refine Outcome.mapM_eq_ok_iff.2 (.cons (entityStruct_eq_ok_iff.2 ⟨by decide, _,
      fields_eq_ok_iff.2 (Outcome.mapM_eq_ok_iff.2 (.cons ?_ .nil)), rfl⟩) .nil)
    exact field_eq_ok_iff.2 ⟨_, fieldType_text _ _, by decide, by decide⟩
  exact file_eq_ok_iff.2 ⟨⟨[], _, _, by decide, rfl, hdefinition, hentity, rfl⟩⟩

/-- The brackets and literals of the file are closed, so it can be laid out. -/
theorem exists_generate_addresses :
    ∃ source, generate "models" "entitygen" addresses = .ok source := by
  have hlines : addressesFile.lines =
      ["// Code generated by entitygen. DO NOT EDIT.", "package models", "",
        "// Address is generated from the entity model definitions.", "type Address struct \x7b",
        "\tStreet\x0bstring\x0b\x60json:\"street\"\x60", "\x7d", "",
        "// Address is generated from the entity model entities.", "type Address struct \x7b",
        "\tID\x0b*string\x0b\x60json:\"id,omitempty\"\x60", "\x7d", ""] := by decide
  refine exists_generate file_addresses hlines (by decide) ?_
  simp [checkDelimiters, numberedMarks, marks, brackets, afterRawString, balanced, opening?]

/-- The definition and the entity give one name to their structs, and it is declared twice. -/
theorem declaresOnce_iff_addresses :
    (∃ source, generate "models" "entitygen" addresses = .ok source) ∧
      ¬addressesFile.DeclaresOnce := by
  obtain ⟨source, hsource⟩ := exists_generate_addresses
  obtain ⟨f, hf, -, hiff⟩ := declaresOnce_iff hsource
  obtain rfl : addressesFile = f := Except.ok.inj (file_addresses.symm.trans hf)
  refine ⟨⟨source, hsource⟩, fun h => ?_⟩
  have htypes : typeNames addresses = ["Address", "Address"] := by decide +kernel
  have hnodup := (hiff.1 h).types
  rw [htypes] at hnodup
  exact absurd hnodup (by decide)

end EntityModel.Go
