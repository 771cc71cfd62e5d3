import EntityModel.Proofs.Go.LaidOut
import EntityModel.Proofs.Relational.Columns
import EntityModel.Proofs.Sql.Script

/-! # Kinds of fields

The property of an entity has a type in the Go file and one in its table, and the two are of one
kind, with one exception: a definition with members, of which some are required, has a struct of its
own even if it is text, a number, a truth value or an enumeration. The table looks through the
definition and has a column of that type (`kinds_agree`). -/

namespace EntityModel

open Relational

/-! ## Kinds of types -/

namespace Go

/-- A Go type of the file and the type of a column are of one kind. -/
inductive File.Corresponds (f : File) : GoType → ColumnType → Prop
  /-- Text. -/
  | text : f.Corresponds .string .text
  /-- Identifiers. -/
  | uuid : f.Corresponds .string .uuid
  /-- Points in time. -/
  | timestamp : f.Corresponds .time .timestamp
  /-- Whole numbers. -/
  | integer : f.Corresponds .int .integer
  /-- Numbers. -/
  | number : f.Corresponds .float64 .number
  /-- Truth values. -/
  | boolean : f.Corresponds .bool .boolean
  /-- The values of an enumeration. -/
  | enumeration {name : String} (h : f.DeclaresEnum name) : f.Corresponds (.named name) .text
  /-- Lists. -/
  | slice (items : GoType) : f.Corresponds (.slice items) .json
  /-- Objects without a type of their own. -/
  | anyMap : f.Corresponds .anyMap .json
  /-- Anything. -/
  | any : f.Corresponds .any .json
  /-- Objects with a type of their own. -/
  | struct {name : String} (h : f.DeclaresStruct name) : f.Corresponds (.named name) .json

/-- The type behind a pointer. -/
def GoType.withoutPointer : GoType → GoType
  | .pointer value => value
  | type => type

/-- The Go type and the column of a primitive type are of one kind. -/
theorem primitiveType_corresponds (f : File) (p : Primitive) :
    f.Corresponds (primitiveType p) p.columnType := by
  unfold primitiveType Primitive.columnType
  by_cases huuid : p.isUuid = true
  · -- No format is the one of identifiers and one of points in time.
    have hkind : p.kind = .string := by simp_all [Primitive.isUuid]
    have htime : p.isChronological = false := by
      simp_all [Primitive.isUuid, Primitive.isChronological]
    rw [if_pos huuid, htime, hkind]
    exact .uuid
  · rw [if_neg huuid]
    by_cases htime : p.isChronological = true
    · rw [if_pos htime, if_pos htime]
      exact .timestamp
    · rw [if_neg htime, if_neg htime]
      cases p.kind with
      | string => exact .text
      | integer => exact .integer
      | number => exact .number
      | boolean => exact .boolean

end Go

/-- Whether the type is a primitive one or an enumeration. -/
def SemanticType.isScalar : SemanticType → Bool
  | .primitive _ | .enumeration _ => true
  | _ => false

/-- The type is a definition that is not known by name and has members, of which some are required,
but stands for a primitive type or an enumeration. -/
def Vocabulary.IsScalarStruct (v : Vocabulary) : SemanticType → Prop
  | .definition name => WellKnown.ofDefinition? name = none ∧ Go.hasStruct v name = true ∧
      ∃ behind, v.underlying (.definition name) = .ok behind ∧ behind.isScalar = true
  | _ => False

/-- The property of the entity means a definition with members that stands for a primitive type or
an enumeration. -/
def Schema.HoldsScalarStruct (s : Schema) (owner field : String) : Prop :=
  ∃ entity p type, s.entities.find? owner = some entity ∧
    entity.properties.find? field = some p ∧ s.vocabulary.resolve p = .ok type ∧
    s.vocabulary.IsScalarStruct type

/-! ## Kinds of properties -/

namespace Vocabulary

variable {v : Vocabulary} {type : SemanticType}

/-- A primitive type has no column for documents. -/
theorem columnType_ne_json (p : Primitive) : p.columnType ≠ .json := by
  unfold Primitive.columnType
  split
  · decide
  · split
    · decide
    · cases p.kind <;> decide

/-- Only primitive types and enumerations have columns of their own kinds. -/
theorem type_directColumn_eq_json_iff :
    (v.directColumn type).type = .json ↔ type.isScalar = false := by
  cases type with
  | primitive p => exact iff_of_false (columnType_ne_json p) (by simp [SemanticType.isScalar])
  | _ => simp [directColumn, SemanticType.isScalar]

/-- The column of a reference to a definition, if there is one. -/
theorem columnOfType_definition_eq_ok {name : String} {shape : ColumnShape}
    (h : v.columnOfType (.definition name) = .ok shape) :
    (∃ known, WellKnown.ofDefinition? name = some known ∧
      shape.type = if known.isIdentifier then .uuid else .timestamp) ∨
    WellKnown.ofDefinition? name = none ∧
      ∃ behind, v.underlying (.definition name) = .ok behind ∧ shape = v.directColumn behind := by
  dsimp only [columnOfType] at h
  split at h
  · rename_i known hknown
    obtain rfl := Except.ok.inj h
    exact .inl ⟨known, hknown, rfl⟩
  · rename_i hknown
    obtain ⟨behind, hbehind, rfl⟩ := Outcome.map_eq_ok_iff.1 h
    exact .inr ⟨hknown, behind, hbehind, rfl⟩

/-- A type that is no definition has its own column. -/
theorem columnOfType_of_ne_definition (h : ∀ name, type ≠ .definition name) :
    v.columnOfType type = .ok (v.directColumn type) := by
  cases type with
  | definition name => exact absurd rfl (h name)
  | _ => rfl

end Vocabulary

namespace Go

/-- A definition that is known by name has a Go type and a column of one kind. -/
theorem corresponds_wellKnown {f : File} {v : Vocabulary} {name : String} {known : WellKnown}
    {g : GoType} (hknown : WellKnown.ofDefinition? name = some known)
    (hgo : typeOf v (.definition name) = .ok g) :
    f.Corresponds g (if known.isIdentifier then .uuid else .timestamp) := by
  rcases typeOf_definition_eq_ok hgo with ⟨known', hknown', rfl⟩ | ⟨hnone, -⟩
  · obtain rfl := Option.some.inj (hknown.symm.trans hknown')
    cases known.isIdentifier with
    | true => exact .uuid
    | false => exact .timestamp
  · cases hknown.symm.trans hnone

namespace Passes

variable {package generator : String} {s : Schema} {f : File} (ps : Passes package generator s f)

include ps

variable {p : Property} {type : SemanticType} {g : GoType} {shape : ColumnShape}

/-- A type that is no reference to a definition has a Go type and a column of one kind. -/
theorem corresponds_directColumn (hp : s.vocabulary.resolve p = .ok type)
    (hne : ∀ name, type ≠ .definition name) (hgo : typeOf s.vocabulary type = .ok g) :
    f.Corresponds g (s.vocabulary.directColumn type).type := by
  cases type with
  | primitive q =>
    cases typeOf_eq_ok_iff.1 hgo
    exact primitiveType_corresponds f q
  | enumeration name =>
    cases typeOf_eq_ok_iff.1 hgo
    exact .enumeration (ps.declaresEnum (Vocabulary.contains_of_innermost_eq_enumeration hp rfl))
  | definition name => exact absurd rfl (hne name)
  | array items =>
    obtain ⟨items, -, rfl⟩ := exists_of_typeOf_array hgo
    exact .slice items
  | object shape =>
    cases typeOf_eq_ok_iff.1 hgo
    exact .anyMap
  | any =>
    cases typeOf_eq_ok_iff.1 hgo
    exact .any

/-- A definition with a struct has a column for documents, unless a primitive type or an enumeration
is behind it. -/
theorem corresponds_struct {name : String} {behind : SemanticType}
    (hstruct : hasStruct s.vocabulary name = true) (hscalar : behind.isScalar = false) :
    f.Corresponds (.named (Naming.camel name)) (s.vocabulary.directColumn behind).type := by
  rw [Vocabulary.type_directColumn_eq_json_iff.2 hscalar]
  exact .struct (ps.declaresStruct hstruct)

/-- A definition has a Go type and a column of one kind, unless it has a struct and stands for a
primitive type or an enumeration. -/
theorem corresponds_definition {name : String}
    (hp : s.vocabulary.resolve p = .ok (.definition name))
    (hgo : typeOf s.vocabulary (.definition name) = .ok g)
    (hsql : s.vocabulary.columnOfType (.definition name) = .ok shape)
    (hno : ¬s.vocabulary.IsScalarStruct (.definition name)) : f.Corresponds g shape.type := by
  rcases Vocabulary.columnOfType_definition_eq_ok hsql with
    ⟨known, hknown, htype⟩ | ⟨hnone, behind, hbehind, rfl⟩
  · rw [htype]
    exact corresponds_wellKnown hknown hgo
  · rcases typeOf_definition_eq_ok hgo with ⟨known, hknown, -⟩ |
      ⟨-, ⟨hstruct, rfl⟩ | ⟨-, behind', hbehind', hbase⟩⟩
    · cases hnone.symm.trans hknown
    · refine ps.corresponds_struct hstruct (Bool.eq_false_iff.2 fun hscalar => ?_)
      exact hno ⟨hnone, hstruct, behind, hbehind, hscalar⟩
    · obtain rfl := Except.ok.inj (hbehind.symm.trans hbehind')
      obtain ⟨q, -, hq, hne, -⟩ := Vocabulary.exists_leadsTo_of_follow hp hbehind
      exact ps.corresponds_directColumn hq hne hbase

/-- What a property means has a Go type and a column of one kind, unless it is a definition with a
struct that stands for a primitive type or an enumeration. -/
theorem corresponds (hp : s.vocabulary.resolve p = .ok type)
    (hgo : typeOf s.vocabulary type = .ok g) (hsql : s.vocabulary.columnOfType type = .ok shape)
    (hno : ¬s.vocabulary.IsScalarStruct type) : f.Corresponds g shape.type := by
  by_cases hdefinition : ∃ name, type = .definition name
  · obtain ⟨name, rfl⟩ := hdefinition
    exact ps.corresponds_definition hp hgo hsql hno
  · have hne : ∀ name, type ≠ .definition name := fun name heq => hdefinition ⟨name, heq⟩
    obtain rfl := Except.ok.inj ((Vocabulary.columnOfType_of_ne_definition hne).symm.trans hsql)
    exact ps.corresponds_directColumn hp hne hgo

/-- A definition with a struct that stands for a primitive type or an enumeration has its struct as
Go type, but no column for documents. -/
theorem not_corresponds (hgo : typeOf s.vocabulary type = .ok g)
    (hsql : s.vocabulary.columnOfType type = .ok shape)
    (hscalar : s.vocabulary.IsScalarStruct type) :
    shape.type ≠ .json ∧ ∃ name, g = .named name ∧ f.DeclaresStruct name := by
  cases type with
  | definition name =>
    obtain ⟨hnone, hstruct, behind, hbehind, hscalar⟩ := hscalar
    constructor
    · rcases Vocabulary.columnOfType_definition_eq_ok hsql with
        ⟨known, hknown, -⟩ | ⟨-, behind', hbehind', rfl⟩
      · cases hnone.symm.trans hknown
      · obtain rfl := Except.ok.inj (hbehind.symm.trans hbehind')
        rw [Ne, Vocabulary.type_directColumn_eq_json_iff, hscalar]
        exact Bool.noConfusion
    · rcases typeOf_definition_eq_ok hgo with ⟨known, hknown, -⟩ | ⟨-, ⟨-, rfl⟩ | ⟨hplain, -⟩⟩
      · cases hnone.symm.trans hknown
      · exact ⟨_, rfl, ps.declaresStruct hstruct⟩
      · cases hplain.symm.trans hstruct
  | _ => exact hscalar.elim

end Passes

/-- A Go type that has a column of its kind is what is left of its field without the pointer. -/
theorem File.Corresponds.withoutPointer_forField {f : File} {g : GoType} {c : ColumnType}
    (h : f.Corresponds g c) (required : Bool) : (g.forField required).withoutPointer = g := by
  cases h <;> cases required <;> rfl

end Go

/-! ## Kinds of fields -/

/-- **A field and a column of one property are of one kind, unless the property is a reference to a
definition with members that stands for a primitive type or an enumeration.** The field then has the
struct of the definition, and the column is none for documents. -/
theorem kinds_agree {s : Schema} {package generator source : String} {p : Plan}
    (hgo : Go.generate package generator s = .ok source) (hplan : s.plan = .ok p) :
    ∃ f, Go.file package generator s = .ok f ∧ Go.layout f.text = .ok source ∧
      ∀ t ∈ p.tables, ∀ c ∈ t.columns, ∃ field, f.HoldsField t.entity c.name field ∧
        (¬s.HoldsScalarStruct t.entity c.name →
          f.Corresponds field.type.withoutPointer c.type) ∧
        (s.HoldsScalarStruct t.entity c.name → c.type ≠ .json ∧
          ∃ name, field.type.withoutPointer = .named name ∧ f.DeclaresStruct name) := by
  obtain ⟨f, hf, hsource⟩ := Go.generate_eq_ok_iff.1 hgo
  obtain ⟨gs⟩ := Go.file_eq_ok_iff.1 hf
  obtain ⟨ps⟩ := Schema.plan_eq_ok_iff.1 hplan
  refine ⟨f, hf, hsource, fun t ht c hc => ?_⟩
  obtain ⟨entity, q, shape, hentity, hq, -, hshape, hcolumn⟩ := (ps.mem_columns_iff ht).1 hc
  have htype : c.type = shape.type := congrArg Column.type hcolumn
  -- Field and column come from the same meaning of the property.
  obtain ⟨g, hg, -, hholds⟩ := gs.exists_holdsField hentity hq
  obtain ⟨type, base, hresolve, hbase, rfl⟩ := Go.fieldType_eq_ok_iff.1 hg
  obtain ⟨type', hresolve', hsql⟩ := Outcome.bind_eq_ok_iff.1 hshape
  obtain rfl := Except.ok.inj (hresolve.symm.trans hresolve')
  refine ⟨_, hholds, fun hno => ?_, ?_⟩
  · have hkind := gs.corresponds hresolve hbase hsql fun hscalar =>
      hno ⟨entity, q, type, hentity, hq, hresolve, hscalar⟩
    rw [hkind.withoutPointer_forField, htype]
    exact hkind
  · rintro ⟨entity', q', type', hentity', hq', hresolve', hscalar⟩
    obtain rfl := Option.some.inj (hentity.symm.trans hentity')
    obtain rfl := Option.some.inj (hq.symm.trans hq')
    obtain rfl := Except.ok.inj (hresolve.symm.trans hresolve')
    obtain ⟨hjson, name, rfl, hdeclared⟩ := gs.not_corresponds hbase hsql hscalar
    refine ⟨htype ▸ hjson, name, ?_, hdeclared⟩
    cases entity.isRequired c.name <;> rfl

/-! ## Text with members -/

namespace Schema

/-- Items with a code, which is text but has members. -/
def coded : Schema where
  version := "1"
  metadata := ⟨""⟩
  idSemantics := none
  enums := ∅
  definitions := .ofList [("code", { Property.primitive "string" with
    properties := [("text", .primitive "string")]
    required := ["text"] })]
  entities := .ofList [("Item", {
    description := ""
    required := []
    properties := .ofList [("code", .refer "#/definitions/code"), ("id", .primitive "string")]
    relationships := ∅
    naturalKeys := []
    states := none
    invariants := [] })]

/-- The plan of `coded`. -/
def codedPlan : Plan where
  tables := [⟨"items", "Item",
    [⟨"id", .text, true, true, none⟩, ⟨"code", .text, false, false, none⟩], []⟩]
  joinTables := []
  indexes := []
  requiredJoins := []

/-- Planning `coded` makes its plan. -/
theorem plan_coded : coded.plan = .ok codedPlan := by decide +kernel

/-- The text behind the code. -/
theorem holdsScalarStruct_coded : coded.HoldsScalarStruct "Item" "code" := by
  have hbehind : coded.vocabulary.underlying (.definition "code") =
      .ok (.primitive ⟨.string, none⟩) := by
    rw [Vocabulary.underlying, Vocabulary.follow]
    -- The definition is text, so nothing is left to follow.
    change coded.vocabulary.follow ["code"] (.primitive ⟨.string, none⟩) = _
    rw [Vocabulary.follow]
    intro name hname
    cases hname
  exact ⟨_, _, .definition "code", rfl, rfl, rfl, rfl, rfl, _, hbehind, rfl⟩

end Schema

namespace Go

open Schema (coded)

/-- The Go file of `coded`. -/
def codedFile : File where
  package := "models"
  generator := "entitygen"
  declarations := [.struct "Code" .definitions [⟨"Text", "text", .string, true⟩],
    .struct "Item" .entities
      [⟨"Code", "code", .pointer (.named "Code"), false⟩, ⟨"ID", "id", .pointer .string, false⟩]]

/-- Go code for `coded` is its file. -/
theorem file_coded : file "models" "entitygen" coded = .ok codedFile := by
  have hcamel : Naming.camel "code" = "Code" := by decide
  have hcode : fieldType coded.vocabulary (.refer "#/definitions/code") false =
      .ok (.pointer (.named (Naming.camel "code"))) :=
    fieldType_eq_ok_iff.2 ⟨_, _, rfl, typeOf_eq_ok_iff.2 (.struct rfl rfl), rfl⟩
  have hdefinition : definitionStructs coded.vocabulary coded.definitions.entries =
      .ok [.struct "Code" .definitions [⟨"Text", "text", .string, true⟩]] := by
    refine Outcome.mapM_eq_ok_iff.2 (.cons ?_ .nil)
    refine Outcome.bind_eq_ok_iff.2 ⟨"Code", by decide, ?_⟩
    refine Outcome.bind_eq_ok_iff.2 ⟨_, fields_eq_ok_iff.2
      (Outcome.mapM_eq_ok_iff.2 (.cons ?_ .nil)), rfl⟩
    exact field_eq_ok_iff.2 ⟨_, fieldType_text _ _, by decide, by decide⟩
  have hentity : coded.entities.entries.mapM (fun e => entityStruct coded.vocabulary e.1 e.2) =
      .ok [.struct "Item" .entities [⟨"Code", "code", .pointer (.named "Code"), false⟩,
        ⟨"ID", "id", .pointer .string, false⟩]] := by
    refine Outcome.mapM_eq_ok_iff.2 (.cons (entityStruct_eq_ok_iff.2 ⟨by decide, _,
      fields_eq_ok_iff.2 (Outcome.mapM_eq_ok_iff.2 (.cons ?_ (.cons ?_ .nil))), rfl⟩) .nil)
    · rw [hcamel] at hcode
      exact field_eq_ok_iff.2 ⟨_, hcode, by decide, by decide⟩
    · exact field_eq_ok_iff.2 ⟨_, fieldType_text _ _, by decide, by decide⟩
  exact file_eq_ok_iff.2 ⟨⟨[], _, _, by decide, rfl, hdefinition, hentity, rfl⟩⟩

/-- The file of `coded` can be laid out. -/
theorem exists_generate_coded :
    ∃ source, generate "models" "entitygen" coded = .ok source := by
  obtain ⟨source, -, hsource⟩ := exists_generate_of_file (by decide) file_coded
  exact ⟨source, hsource⟩

end Go

/-- The code of an item is text in its table and a struct in the Go file. -/
theorem kinds_agree_coded :
    (∃ source, Go.generate "models" "entitygen" Schema.coded = .ok source) ∧
    Schema.coded.plan = .ok Schema.codedPlan ∧
    ∃ field name, Go.codedFile.HoldsField "Item" "code" field ∧
      field.type.withoutPointer = .named name ∧ Go.codedFile.DeclaresStruct name := by
  obtain ⟨source, hgo⟩ := Go.exists_generate_coded
  obtain ⟨f, hf, -, hfields⟩ := kinds_agree hgo Schema.plan_coded
  obtain rfl : Go.codedFile = f := Except.ok.inj (Go.file_coded.symm.trans hf)
  obtain ⟨field, hfield, -, hscalar⟩ := hfields _ (List.mem_singleton_self _)
    ⟨"code", .text, false, false, none⟩ (by decide)
  obtain ⟨-, name, hname, hdeclared⟩ := hscalar Schema.holdsScalarStruct_coded
  exact ⟨⟨source, hgo⟩, Schema.plan_coded, field, name, hfield, hname, hdeclared⟩

end EntityModel
