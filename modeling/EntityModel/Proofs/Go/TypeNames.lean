import EntityModel.Proofs.Go.Declarations
import EntityModel.Proofs.Go.Delimiters

/-! # Types that fields name

The field of a property names a type of the language, or the type of an enumeration or of a
definition with a struct (`typeFor_names`), and these are declared in the same file. Declared names
have no full stop, so points in time are imported exactly if a field mentions them
(`refersToDeclared`). -/

namespace EntityModel.Go

/-! ## Texts of types -/

namespace GoType

/-- The declared type that a type is made of, if there is one. -/
def name? : GoType → Option String
  | .named name => some name
  | .slice items => items.name?
  | .pointer value => value.name?
  | _ => none

/-- A field that may be left out has a type made of the same declared one. -/
@[simp] theorem name?_forField (type : GoType) (required : Bool) :
    (type.forField required).name? = type.name? := by
  unfold forField
  split <;> rfl

/-- The types of the language that fields have. -/
def builtin : List String :=
  ["string", "int", "float64", "bool", "any", "map[string]any", "time.Time"]

/-- The characters of a type without the marks of pointers and lists in front. -/
def bare : List Char → List Char
  | '*' :: rest => bare rest
  | '[' :: ']' :: rest => bare rest
  | text => text

/-- The text of a type without the marks of pointers and lists in front. -/
def bareText (text : String) : String := String.ofList (bare text.toList)

/-- An identifier has no marks in front. -/
theorem bare_of_isIdentifier {name : String} (h : isIdentifier name = true) :
    bare name.toList = name.toList := by
  have hmarks : isIdentifierPart '*' = false ∧ isIdentifierPart '[' = false := by decide
  have hparts : ∀ c ∈ name.toList, isIdentifierPart c = true := fun c =>
    isIdentifierPart_of_mem h
  unfold bare
  split
  · rename_i rest heq
    have hmark := hparts '*' (heq ▸ List.mem_cons_self)
    cases hmarks.1.symm.trans hmark
  · rename_i rest heq
    have hmark := hparts '[' (heq ▸ List.mem_cons_self)
    cases hmarks.2.symm.trans hmark
  · rfl

/-- Behind pointers and lists stands a type of the language or a declared one. -/
theorem bareText_text (type : GoType) (h : ∀ name ∈ type.name?, isIdentifier name = true) :
    bareText type.text ∈ builtin ∨ bareText type.text ∈ type.name? := by
  induction type with
  | named name =>
    refine .inr (congrArg some ?_)
    rw [bareText, text, bare_of_isIdentifier (h name rfl), String.ofList_toList]
  | slice items ih =>
    have hbare : bareText (slice items).text = bareText items.text := by
      simp [bareText, text, bare, String.toList_append]
    rw [hbare]
    exact ih h
  | pointer value ih =>
    have hbare : bareText (pointer value).text = bareText value.text := by
      simp [bareText, text, bare, String.toList_append]
    rw [hbare]
    exact ih h
  | _ => exact .inl (by decide)

/-- A type that uses points in time says so in its text. -/
theorem infix_text_of_usesTime {type : GoType} (h : type.usesTime = true) :
    "time.Time".toList <:+: type.text.toList := by
  induction type with
  | time => exact List.infix_rfl
  | slice items ih =>
    rw [text, String.toList_append]
    exact (ih h).trans (List.suffix_append _ _).isInfix
  | pointer value ih =>
    rw [text, String.toList_append]
    exact (ih h).trans (List.suffix_append _ _).isInfix
  | _ => cases h

/-- Apart from points in time, no type has a full stop. -/
theorem usesTime_of_mem {type : GoType} (hnames : ∀ name ∈ type.name?, '.' ∉ name.toList)
    (h : '.' ∈ type.text.toList) : type.usesTime = true := by
  induction type with
  | named name => exact absurd h (hnames name rfl)
  | time => rfl
  | slice items ih =>
    rw [text, String.toList_append, List.mem_append] at h
    exact ih hnames (h.resolve_left (by decide))
  | pointer value ih =>
    rw [text, String.toList_append, List.mem_append] at h
    exact ih hnames (h.resolve_left (by decide))
  | _ => exact absurd h (by decide)

/-- A type uses points in time exactly if its text mentions them: no declared name does. -/
theorem usesTime_iff {type : GoType} (hnames : ∀ name ∈ type.name?, isIdentifier name = true) :
    type.usesTime = true ↔ "time.Time".toList <:+: type.text.toList := by
  refine ⟨infix_text_of_usesTime, fun h => usesTime_of_mem (fun name hname hstop => ?_)
    (h.subset (by decide))⟩
  exact absurd (isIdentifierPart_of_mem (hnames name hname) hstop) (by decide)

/-- The text of a type breaks no line. -/
theorem unbroken_text {type : GoType} (hnames : ∀ name ∈ type.name?, isIdentifier name = true) :
    Unbroken type.text := by
  induction type with
  | named name => exact unbroken_of_isIdentifier (hnames name rfl)
  | slice items ih => exact unbroken_append.2 ⟨by decide, ih hnames⟩
  | pointer value ih => exact unbroken_append.2 ⟨by decide, ih hnames⟩
  | _ => exact (by decide)

end GoType

/-! ## Types of properties -/

/-- The name is the one of the type of an enumeration, or of a definition with a struct. -/
def NamesType (v : Vocabulary) (name : String) : Prop :=
  ∃ source, name = Naming.camel source ∧
    (v.enums.contains source = true ∨ hasStruct v source = true)

section

variable {v : Vocabulary} {p : Property} {type found : SemanticType} {g : GoType}
  {name : String}

/-- The type of what a property means names no more than enumerations and definitions with
structs. -/
theorem typeFor_names {outcome : Except ResolveError GoType} (h : TypeFor v type outcome)
    (hp : v.resolve p = .ok found) (hfound : found.innermost = type.innermost) :
    Outcome.Ends outcome (fun g => ∀ name ∈ g.name?, NamesType v name) fun _ => True := by
  -- A definition without a struct is followed to another property, so `p` is not fixed.
  induction h generalizing p found with
  | primitive q =>
    intro name hname
    unfold primitiveType at hname
    split at hname
    · cases hname
    · split at hname <;> cases hname
  | enumeration source =>
    rintro name ⟨rfl⟩
    exact ⟨source, rfl, .inl (Vocabulary.contains_of_innermost_eq_enumeration hp hfound)⟩
  | wellKnown =>
    intro name hname
    split at hname <;> cases hname
  | struct _ hstruct =>
    rintro name ⟨rfl⟩
    exact ⟨_, rfl, .inr hstruct⟩
  | unresolved => trivial
  | behind _ _ hbehind _ ih =>
    -- What stands behind the definition is what a property means.
    obtain ⟨q, hq⟩ := Vocabulary.exists_find?_of_underlying hbehind
    obtain ⟨e, -, hresolve, -⟩ := Vocabulary.exists_leadsTo_of_underlying hq hbehind
    exact ih hresolve rfl
  | array _ ih => exact (ih hp hfound).map fun _ h => h
  | object => nofun
  | any => nofun

/-- The type of a field names types of the vocabulary. -/
theorem fieldType_names {required : Bool} (h : fieldType v p required = .ok g)
    (hname : name ∈ g.name?) : NamesType v name := by
  obtain ⟨type, base, hp, hbase, rfl⟩ := fieldType_eq_ok_iff.1 h
  rw [GoType.name?_forField] at hname
  exact (typeFor_names (typeOf_eq_ok_iff.1 hbase) hp rfl).of_eq_ok rfl name hname

/-- Fields are called like properties, and name types of the vocabulary. -/
theorem fields_names {isRequired : String → Bool} {wrap : String → TypeError → GenerateError}
    {properties : List (String × Property)} {fs : List Field}
    (h : fields v isRequired wrap properties = .ok fs) : ∀ field ∈ fs,
      field.name = Naming.camel field.property ∧ isIdentifier field.name = true ∧
        ∀ name ∈ field.type.name?, NamesType v name := by
  intro field hfield
  obtain ⟨e, -, hstep⟩ := Outcome.exists_source (fields_eq_ok_iff.1 h) hfield
  obtain ⟨type, htype, hid, rfl⟩ := field_eq_ok_iff.1 hstep
  exact ⟨rfl, hid, fun name => fieldType_names htype⟩

end

/-! ## Declared types -/

/-- The file declares the type of an enumeration. -/
def File.DeclaresEnum (f : File) (name : String) : Prop :=
  ∃ source constants, .enumeration name source constants ∈ f.declarations

/-- The file declares a struct. -/
def File.DeclaresStruct (f : File) (name : String) : Prop :=
  ∃ origin fields, .struct name origin fields ∈ f.declarations

/-- The type that a declaration declares. -/
def Declaration.typeName : Declaration → String
  | .enumeration name _ _ => name
  | .struct name _ _ => name

/-- The types that a file declares. -/
def File.typeNames (f : File) : List String := f.declarations.map (·.typeName)

/-- The type of an enumeration is a type of the file. -/
theorem File.DeclaresEnum.mem_typeNames {f : File} {name : String} (h : f.DeclaresEnum name) :
    name ∈ f.typeNames := by
  obtain ⟨source, constants, hd⟩ := h
  exact List.mem_map.2 ⟨_, hd, rfl⟩

/-- A struct is a type of the file. -/
theorem File.DeclaresStruct.mem_typeNames {f : File} {name : String} (h : f.DeclaresStruct name) :
    name ∈ f.typeNames := by
  obtain ⟨origin, fields, hd⟩ := h
  exact List.mem_map.2 ⟨_, hd, rfl⟩

/-! ## Names on the lines of declarations -/

/-- The names of a declaration can be declared, and its fields name types of the vocabulary. -/
inductive Declaration.WellNamed (v : Vocabulary) : Declaration → Prop
  /-- An enumeration. -/
  | enumeration {source : String} {constants : List Constant}
      (hname : isIdentifier (Naming.camel source) = true)
      (hconstants : ∀ c ∈ constants, isIdentifier c.name = true) :
      WellNamed v (.enumeration (Naming.camel source) source constants)
  /-- A struct. -/
  | struct {name : String} {origin : Origin} {fields : List Field}
      (hname : isIdentifier name = true)
      (hfields : ∀ field ∈ fields, field.name = Naming.camel field.property ∧
        isIdentifier field.name = true ∧ ∀ name ∈ field.type.name?, NamesType v name) :
      WellNamed v (.struct name origin fields)

namespace Declaration

variable {v : Vocabulary} {d : Declaration}

/-- The type of a declaration has a name that is accepted. -/
theorem WellNamed.isIdentifier_typeName (h : d.WellNamed v) : isIdentifier d.typeName = true := by
  cases h <;> assumption

/-- The fields of a declaration name types of the vocabulary. -/
theorem WellNamed.namesType (h : d.WellNamed v) : ∀ field ∈ d.fields, ∀ name ∈ field.type.name?,
    NamesType v name := by
  cases h with
  | enumeration => exact fun field hfield => absurd hfield List.not_mem_nil
  | struct _ hfields => exact fun field hfield => (hfields field hfield).2.2

/-- The line of a field is one line. -/
theorem unbroken_field {f : Field} (hname : f.name = Naming.camel f.property)
    (hid : isIdentifier f.name = true) (htype : Unbroken f.type.text) : Unbroken f.row := by
  have hproperty : Unbroken f.property := unbroken_of_isIdentifier_camel (hname ▸ hid)
  have htag : Unbroken f.tag := by
    unfold Field.tag
    cases f.required <;> simp only [unbroken_append, hproperty] <;> decide
  simp only [Field.row, unbroken_append, unbroken_of_isIdentifier hid, htype, htag]
  decide

/-- The line of a constant is one line. -/
theorem unbroken_constant {typeName : String} {c : Constant} (htype : Unbroken typeName)
    (hid : isIdentifier c.name = true) : Unbroken (c.row typeName) := by
  simp only [Constant.row, unbroken_append, unbroken_of_isIdentifier hid, htype,
    unbroken_quote c.value]
  decide

/-- No line is broken if the names on it can be declared. -/
theorem WellNamed.unbroken_lines (h : d.WellNamed v)
    (htypes : ∀ field ∈ d.fields, Unbroken field.type.text) : ∀ l ∈ d.lines, Unbroken l := by
  cases h with
  | @enumeration source constants hname hconstants =>
    have htype := unbroken_of_isIdentifier hname
    have hsource := unbroken_of_isIdentifier_camel hname
    refine List.forall_mem_append.2 ⟨?_, ?_⟩
    · simp only [List.forall_mem_cons, unbroken_append, htype, hsource]
      decide
    · by_cases hempty : constants.isEmpty = true
      · simp [hempty]
      · rw [if_neg hempty]
        refine List.forall_mem_append.2 ⟨List.forall_mem_append.2 ⟨by decide, ?_⟩, by decide⟩
        exact List.forall_mem_map.2 fun c hc => unbroken_constant htype (hconstants c hc)
  | @struct name origin fields hname hfields =>
    have htype := unbroken_of_isIdentifier hname
    have horigin : Unbroken origin.word := by cases origin <;> decide
    refine List.forall_mem_append.2 ⟨List.forall_mem_append.2 ⟨?_, ?_⟩, by decide⟩
    · simp only [List.forall_mem_cons, unbroken_append, htype, horigin]
      decide
    · refine List.forall_mem_map.2 fun field hfield => ?_
      obtain ⟨hcamel, hid, -⟩ := hfields field hfield
      exact unbroken_field hcamel hid (htypes field hfield)

end Declaration

/-- An enumeration is declared with names that are accepted. -/
theorem enumeration_wellNamed {v : Vocabulary} {name : String} {e : Enumeration} {d : Declaration}
    (h : enumeration name e = .ok d) : d.WellNamed v := by
  obtain ⟨typeName, htype, h⟩ := Outcome.bind_eq_ok_iff.1 h
  obtain ⟨constants, hconstants, h⟩ := Outcome.bind_eq_ok_iff.1 h
  obtain rfl := Except.ok.inj h
  obtain ⟨hname, rfl⟩ := identifier_eq_ok_iff.1 htype
  refine .enumeration hname fun c hc => ?_
  obtain ⟨value, -, hstep⟩ := Outcome.exists_source hconstants hc
  dsimp only [constant] at hstep
  split at hstep
  · cases hstep
  · obtain ⟨c', hc', hstep⟩ := Outcome.bind_eq_ok_iff.1 hstep
    obtain rfl := Except.ok.inj hstep
    obtain ⟨hid, rfl⟩ := identifier_eq_ok_iff.1 hc'
    exact hid

/-- The struct of a definition has names that are accepted, and types of the vocabulary. -/
theorem definitionStruct_wellNamed {v : Vocabulary} {name : String} {p : Property}
    {d : Declaration} (h : definitionStruct v name p = .ok d) : d.WellNamed v := by
  obtain ⟨fs, hfs, rfl⟩ := definitionStruct_eq_ok h
  obtain ⟨_, htype, -⟩ := Outcome.bind_eq_ok_iff.1 h
  exact .struct (declarable_eq_ok_iff.1 htype).1 (fields_names hfs)

/-- The struct of an entity has names that are accepted, and types of the vocabulary. -/
theorem entityStruct_wellNamed {v : Vocabulary} {name : String} {e : Entity} {d : Declaration}
    (h : entityStruct v name e = .ok d) : d.WellNamed v := by
  obtain ⟨hid, fs, hfs, rfl⟩ := entityStruct_eq_ok_iff.1 h
  exact .struct hid (fields_names hfs)

namespace Passes

variable {package generator : String} {s : Schema} {f : File} (ps : Passes package generator s f)

include ps

/-- A file declares the type of every enumeration. -/
theorem declaresEnum {name : String} (h : s.enums.contains name = true) :
    f.DeclaresEnum (Naming.camel name) := by
  obtain ⟨e, he⟩ := Option.isSome_iff_exists.1 h
  obtain ⟨d, hd, hstep⟩ := Outcome.exists_result ps.enums_eq_mapM (NameMap.find?_eq_some_iff.1 he)
  obtain ⟨constants, rfl, -⟩ := enumeration_eq_ok (Outcome.mapError_eq_ok_iff.1 hstep)
  refine ⟨name, constants, ?_⟩
  rw [ps.declarations_eq]
  exact List.mem_append_left _ (List.mem_append_left _ hd)

/-- A file declares the struct of every definition that has one. -/
theorem declaresStruct {name : String} (h : hasStruct s.vocabulary name = true) :
    f.DeclaresStruct (Naming.camel name) := by
  obtain ⟨q, hq, hstruct⟩ := (Option.any_eq_true _ _).1 h
  obtain ⟨d, hd, hstep⟩ := Outcome.exists_result ps.definitions_eq
    (List.mem_filter.2 ⟨NameMap.find?_eq_some_iff.1 hq, hstruct⟩)
  obtain ⟨fs, -, rfl⟩ := definitionStruct_eq_ok hstep
  refine ⟨.definitions, fs, ?_⟩
  rw [ps.declarations_eq]
  exact List.mem_append_left _ (List.mem_append_right _ hd)

/-- Every declaration of a file is well named. -/
theorem wellNamed : ∀ d ∈ f.declarations, d.WellNamed s.vocabulary := by
  intro d hd
  rw [ps.declarations_eq] at hd
  rcases List.mem_append.1 hd with hd | hd
  · rcases List.mem_append.1 hd with hd | hd
    · obtain ⟨e, -, hstep⟩ := Outcome.exists_source ps.enums_eq_mapM hd
      exact enumeration_wellNamed (Outcome.mapError_eq_ok_iff.1 hstep)
    · obtain ⟨⟨name, p⟩, -, hstep⟩ := Outcome.exists_source ps.definitions_eq hd
      exact definitionStruct_wellNamed hstep
  · obtain ⟨e, -, hstep⟩ := Outcome.exists_source ps.entities_eq hd
    exact entityStruct_wellNamed hstep

/-- The types that fields name are declared in the file. -/
theorem mem_typeNames {name : String} (h : NamesType s.vocabulary name) : name ∈ f.typeNames := by
  obtain ⟨source, rfl, henum | hstruct⟩ := h
  · exact (ps.declaresEnum henum).mem_typeNames
  · exact (ps.declaresStruct hstruct).mem_typeNames

/-- The types that fields name are declared in the same file. -/
theorem namesType {d : Declaration} (hd : d ∈ f.declarations) {field : Field}
    (hfield : field ∈ d.fields) : ∀ name ∈ field.type.name?,
      name ∈ f.typeNames ∧ isIdentifier name = true := by
  intro name hname
  have hmem := ps.mem_typeNames ((ps.wellNamed d hd).namesType field hfield name hname)
  -- The type is not checked at the field, but its name was when it was declared.
  obtain ⟨d', hd', rfl⟩ := List.mem_map.1 hmem
  exact ⟨hmem, (ps.wellNamed d' hd').isIdentifier_typeName⟩

/-- No line of a file is broken, but the first one if the name of the tool is. -/
theorem unbroken_lines : ∀ l ∈ f.lines.tail, Unbroken l := by
  have hpackage : Unbroken f.package :=
    ps.file_eq ▸ unbroken_of_isIdentifier ps.isIdentifier_package
  refine List.forall_mem_append.2 ⟨List.forall_mem_append.2 ⟨?_, ?_⟩, ?_⟩
  · simp only [List.forall_mem_cons, unbroken_append, hpackage]
    decide
  · cases f.usesTime <;> decide
  · intro l hl
    obtain ⟨d, hd, hl⟩ := List.mem_flatMap.1 hl
    refine (ps.wellNamed d hd).unbroken_lines (fun field hfield => ?_) l hl
    exact GoType.unbroken_text fun name hname => (ps.namesType hd hfield name hname).2

end Passes

/-- **A file refers to nothing but types of the language and types that it declares, and points in
time are imported exactly if a field mentions them.** -/
theorem refersToDeclared {package generator source : String} {s : Schema}
    (hgenerator : '\n' ∉ generator.toList) (h : generate package generator s = .ok source) :
    ∃ f, file package generator s = .ok f ∧ layout f.text = .ok source ∧
      (∀ d ∈ f.declarations, ∀ field ∈ d.fields,
        GoType.bareText field.type.text ∈ GoType.builtin ∨
          GoType.bareText field.type.text ∈ f.typeNames) ∧
      (importLine.toList ∈ Text.lines source.toList ↔ ∃ d ∈ f.declarations, ∃ field ∈ d.fields,
        "time.Time".toList <:+: field.type.text.toList) := by
  obtain ⟨f, hf, hsource⟩ := generate_eq_ok_iff.1 h
  obtain ⟨ps⟩ := file_eq_ok_iff.1 hf
  refine ⟨f, hf, hsource, fun d hd field hfield => ?_, ?_⟩
  · have hnames := ps.namesType hd hfield
    have hidentifiers := fun name hname => (hnames name hname).2
    rcases GoType.bareText_text field.type hidentifiers with hbare | hbare
    · exact .inl hbare
    · exact .inr (hnames _ hbare).1
  · have hfirst : '\n' ∉ f.generator.toList := ps.file_eq ▸ hgenerator
    rw [File.lines_layout hfirst ps.unbroken_lines hsource, f.importLine_mem_layoutLines_iff,
      File.usesTime, List.any_eq_true]
    refine exists_congr fun d => and_congr_right fun hd => ?_
    rw [List.any_eq_true]
    refine exists_congr fun field => and_congr_right fun hfield => ?_
    exact GoType.usesTime_iff fun name hname => (ps.namesType hd hfield name hname).2

/-- Visits at points in time, with a status and places. -/
def visits : Schema where
  version := "1"
  metadata := ⟨""⟩
  idSemantics := none
  enums := .ofList [("status", ⟨["open"], "", "", []⟩)]
  definitions := .ofList [("place", { Property.primitive "object" with
    properties := [("name", .primitive "string")]
    required := ["name"] })]
  entities := .ofList [("Visit", {
    description := ""
    required := ["at"]
    properties := .ofList [("at", (Property.primitive "string").withFormat "date-time"),
      ("places", .arrayOf (.refer "#/definitions/place")), ("status", .refer "#/enums/status")]
    relationships := ∅
    naturalKeys := []
    states := none
    invariants := [] })]

/-- The Go file of `visits`. -/
def visitsFile : File where
  package := "models"
  generator := "entitygen"
  declarations := [.enumeration "Status" "status" [⟨"StatusOpen", "open"⟩],
    .struct "Place" .definitions [⟨"Name", "name", .string, true⟩],
    .struct "Visit" .entities [⟨"At", "at", .time, true⟩,
      ⟨"Places", "places", .slice (.named "Place"), false⟩,
      ⟨"Status", "status", .pointer (.named "Status"), false⟩]]

/-- The visits are declared with the type of their status, and points in time are imported. -/
theorem file_visits : file "models" "entitygen" visits = .ok visitsFile := by
  have hplace : Naming.camel "place" = "Place" := by decide
  have hstatus : Naming.camel "status" = "Status" := by decide
  have hat : fieldType visits.vocabulary ((Property.primitive "string").withFormat "date-time")
      true = .ok .time :=
    fieldType_primitive (q := ⟨.string, some "date-time"⟩) rfl
  have hplaces : fieldType visits.vocabulary (.arrayOf (.refer "#/definitions/place")) false =
      .ok (.slice (.named "Place")) := by
    refine fieldType_eq_ok_iff.2
      ⟨.array (.definition "place"), .slice (.named "Place"), rfl, typeOf_eq_ok_iff.2 ?_, rfl⟩
    rw [← hplace]
    exact .array (.struct rfl rfl)
  have hstate : fieldType visits.vocabulary (.refer "#/enums/status") false =
      .ok (.pointer (.named "Status")) := by
    refine fieldType_eq_ok_iff.2
      ⟨.enumeration "status", _, rfl, typeOf_eq_ok_iff.2 (.enumeration _), ?_⟩
    rw [hstatus]
    rfl
  have henums : enumerations visits.enums.entries =
      .ok [.enumeration "Status" "status" [⟨"StatusOpen", "open"⟩]] := by decide
  have hdefinition : definitionStructs visits.vocabulary visits.definitions.entries =
      .ok [.struct "Place" .definitions [⟨"Name", "name", .string, true⟩]] := by
    refine Outcome.mapM_eq_ok_iff.2 (.cons ?_ .nil)
    refine Outcome.bind_eq_ok_iff.2 ⟨"Place", by decide, ?_⟩
    refine Outcome.bind_eq_ok_iff.2 ⟨_, fields_eq_ok_iff.2
      (Outcome.mapM_eq_ok_iff.2 (.cons ?_ .nil)), rfl⟩
    exact field_eq_ok_iff.2 ⟨_, fieldType_text _ _, by decide, by decide⟩
  have hentity : visits.entities.entries.mapM (fun e => entityStruct visits.vocabulary e.1 e.2) =
      .ok [.struct "Visit" .entities [⟨"At", "at", .time, true⟩,
        ⟨"Places", "places", .slice (.named "Place"), false⟩,
        ⟨"Status", "status", .pointer (.named "Status"), false⟩]] := by
    refine Outcome.mapM_eq_ok_iff.2 (.cons (entityStruct_eq_ok_iff.2 ⟨by decide, _,
      fields_eq_ok_iff.2 (Outcome.mapM_eq_ok_iff.2 (.cons ?_ (.cons ?_ (.cons ?_ .nil)))),
      rfl⟩) .nil)
    · exact field_eq_ok_iff.2 ⟨_, hat, by decide, by decide⟩
    · exact field_eq_ok_iff.2 ⟨_, hplaces, by decide, by decide⟩
    · exact field_eq_ok_iff.2 ⟨_, hstate, by decide, by decide⟩
  exact file_eq_ok_iff.2 ⟨⟨_, _, _, by decide, henums, hdefinition, hentity, rfl⟩⟩

/-- The brackets and literals of the file are closed, so it can be laid out. -/
theorem exists_generate_visits :
    ∃ source, generate "models" "entitygen" visits = .ok source := by
  have hlines : visitsFile.lines =
      ["// Code generated by entitygen. DO NOT EDIT.", "package models", "",
        "import \"time\"", "", "// Status enumerates values for status.", "type Status string", "",
        "const (", "\tStatusOpen\x0bStatus\x0b= \"open\"", ")", "",
        "// Place is generated from the entity model definitions.", "type Place struct \x7b",
        "\tName\x0bstring\x0b\x60json:\"name\"\x60", "\x7d", "",
        "// Visit is generated from the entity model entities.", "type Visit struct \x7b",
        "\tAt\x0btime.Time\x0b\x60json:\"at\"\x60",
        "\tPlaces\x0b[]Place\x0b\x60json:\"places,omitempty\"\x60",
        "\tStatus\x0b*Status\x0b\x60json:\"status,omitempty\"\x60", "\x7d", ""] := by
    decide
  have htime : marks ['"', 't', 'i', 'm', 'e', '"'] = marks [] := marks_string rfl
  have hopen : marks ['"', 'o', 'p', 'e', 'n', '"'] = marks [] := marks_string rfl
  refine exists_generate file_visits hlines (by decide) ?_
  simp [checkDelimiters, numberedMarks, marks, brackets, htime, hopen, afterRawString, balanced,
    opening?]

/-- The places and the status have types of the file, and the visits import points in time. -/
theorem refersToDeclared_visits : '\n' ∉ "entitygen".toList ∧
    ∃ source, generate "models" "entitygen" visits = .ok source ∧
      "Place" ∈ visitsFile.typeNames ∧ "Status" ∈ visitsFile.typeNames ∧
      importLine.toList ∈ Text.lines source.toList := by
  have hgenerator : '\n' ∉ "entitygen".toList := by decide
  obtain ⟨source, hsource⟩ := exists_generate_visits
  obtain ⟨f, hf, -, hnames, himport⟩ := refersToDeclared hgenerator hsource
  obtain rfl : visitsFile = f := Except.ok.inj (file_visits.symm.trans hf)
  have hvisit := hnames (.struct "Visit" .entities [⟨"At", "at", .time, true⟩,
    ⟨"Places", "places", .slice (.named "Place"), false⟩,
    ⟨"Status", "status", .pointer (.named "Status"), false⟩]) (by decide)
  refine ⟨hgenerator, source, hsource, ?_, ?_, himport.2 ?_⟩
  · exact (hvisit ⟨"Places", "places", .slice (.named "Place"), false⟩ (by decide)).resolve_left
      (by decide +kernel)
  · exact (hvisit ⟨"Status", "status", .pointer (.named "Status"), false⟩ (by decide)).resolve_left
      (by decide +kernel)
  · exact ⟨_, List.mem_of_getLast? rfl, ⟨"At", "at", .time, true⟩, by decide, List.infix_rfl⟩

end EntityModel.Go
