import EntityModel.Proofs.Go.LaidOut
import EntityModel.Proofs.Go.Types
import EntityModel.Proofs.OpenApi.Components
import EntityModel.Proofs.Relational.Columns
import EntityModel.Proofs.Sql.Script

/-! # Required fields

Three artifacts say which fields of an entity are required: the table by a column that always has a
value, the Go struct by a tag that does not leave out empty values, and the OpenAPI component by a
list. The first two ask the entity, for which the case of letters does not matter. The third one
copies the list of the entity, so that a field that is listed in another case is not in it
(`required_agree_iff`). -/

namespace EntityModel

open Relational

namespace Schema

/-- The entity lists the field as required in its own spelling. -/
def Lists (s : Schema) (owner field : String) : Prop :=
  ∃ entity, s.entities.find? owner = some entity ∧ field ∈ entity.required

variable {s : Schema} {owner field : String}

/-- The schema lists a field of an entity as required if the entity does. -/
theorem lists_iff_mem {entity : Entity} (h : s.entities.find? owner = some entity) :
    s.Lists owner field ↔ field ∈ entity.required := by
  simp [Lists, h]

/-- A field that is listed as required is required up to case. -/
theorem Lists.requires (h : s.Lists owner field) : s.Requires owner field := by
  obtain ⟨entity, hentity, hfield⟩ := h
  exact ⟨entity, hentity, field, hfield, rfl⟩

/-- A column other than the key always has a value if its entity requires the field. -/
theorem Passes.notNull_iff {p : Plan} (ps : Passes s p) {t : Table} (ht : t ∈ p.tables)
    {c : Column} (hc : c ∈ t.columns) (hid : c.name ≠ "id") :
    c.notNull = true ↔ s.Requires t.entity c.name := by
  obtain ⟨entity, q, shape, hentity, -, -, -, hcolumn⟩ := (ps.mem_columns_iff ht).1 hc
  have hnotNull : c.notNull = (decide (c.name = "id") || entity.isRequired c.name) :=
    congrArg Column.notNull hcolumn
  rw [hnotNull, decide_eq_false hid, Bool.false_or, isRequired_iff_requires hentity]

end Schema

/-- The field of a property leaves out empty values if its entity does not require the property. -/
theorem Go.Passes.exists_field {package generator : String} {s : Schema} {f : Go.File}
    (ps : Go.Passes package generator s f) {owner name : String} {entity : Entity} {q : Property}
    (hentity : s.entities.find? owner = some entity) (hq : entity.properties.find? name = some q) :
    ∃ field, f.HoldsField owner name field ∧ (field.OmitsEmpty ↔ ¬s.Requires owner name) := by
  obtain ⟨type, -, hname, hholds⟩ := ps.exists_holdsField hentity hq
  have homits := Go.Field.omitsEmpty_iff
    (f := ⟨Naming.camel name, name, type, entity.isRequired name⟩) (Go.comma_notMem hname)
  refine ⟨_, hholds, ?_⟩
  rw [homits, ← Schema.isRequired_iff_requires hentity, Bool.not_eq_true]

/-- **The artifacts agree on which fields are required, unless a field is listed in another case.**
A column always has a value exactly if the Go field does not leave out an empty one. The OpenAPI
component lists only such fields. It lists all of them exactly if the entity does not require the
field in another spelling only. -/
theorem required_agree_iff {s : Schema} {package generator title source document script : String}
    {b b' : Banner} {d : Sql.Dialect} (hgo : Go.generate package generator s = .ok source)
    (hopenapi : OpenApi.generate title b s = .ok document)
    (hsql : Sql.generate d b' s = .ok script) :
    ∃ f v p, (Go.file package generator s = .ok f ∧ Go.layout f.text = .ok source) ∧
      (OpenApi.document title s = .ok v ∧ document = OpenApi.bannerText b ++ Yaml.encode v) ∧
      (s.plan = .ok p ∧ script = Sql.render d b' p) ∧
      ∀ t ∈ p.tables, ∀ c ∈ t.columns, c.name ≠ "id" →
        ∃ field read, f.HoldsField t.entity c.name field ∧
          OpenApi.findComponent? v t.entity = some read ∧
          (c.notNull = true ↔ ¬field.OmitsEmpty) ∧
          (OpenApi.Requires read c.name → c.notNull = true) ∧
          ((c.notNull = true ↔ OpenApi.Requires read c.name) ↔
            ¬(s.Requires t.entity c.name ∧ ¬s.Lists t.entity c.name)) := by
  obtain ⟨f, hf, hsource⟩ := Go.generate_eq_ok_iff.1 hgo
  obtain ⟨v, hv, hdocument⟩ := OpenApi.generate_eq_ok_iff.1 hopenapi
  obtain ⟨p, hp, hscript⟩ := Sql.generate_eq_ok_iff.1 hsql
  obtain ⟨gs⟩ := Go.file_eq_ok_iff.1 hf
  obtain ⟨ps⟩ := Schema.plan_eq_ok_iff.1 hp
  refine ⟨f, v, p, ⟨hf, hsource⟩, ⟨hv, hdocument⟩, ⟨hp, hscript⟩, fun t ht c hc hid => ?_⟩
  -- The column, the field and the component come from one property of one entity.
  obtain ⟨entity, q, -, hentity, hq, -⟩ := (ps.mem_columns_iff ht).1 hc
  obtain ⟨field, hfield, homits⟩ := gs.exists_field hentity hq
  obtain ⟨read, hread, hrequires⟩ := OpenApi.exists_readComponent hv hentity
  have hlists : OpenApi.Requires read c.name ↔ s.Lists t.entity c.name := by
    rw [hrequires, Schema.lists_iff_mem hentity]
  have hnotNull := ps.notNull_iff ht hc hid
  refine ⟨field, read, hfield, hread, ?_, fun hlisted => ?_, ?_⟩
  · rw [homits, hnotNull, not_not]
  · exact hnotNull.2 (hlists.1 hlisted).requires
  · rw [hnotNull, hlists, not_and_not_right]
    exact ⟨fun h => h.1, fun h => ⟨h, Schema.Lists.requires⟩⟩

/-! ## A field in another case -/

namespace Schema

/-- Projects that require a name, which they list with a capital. -/
def headline : Schema where
  version := "1"
  metadata := ⟨""⟩
  idSemantics := none
  enums := ∅
  definitions := ∅
  entities := .ofList [("Project", {
    description := ""
    required := ["Name"]
    properties := .ofList [("id", .primitive "string"), ("name", .primitive "string")]
    relationships := ∅
    naturalKeys := []
    states := none
    invariants := [] })]

/-- The plan of `headline`. -/
def headlinePlan : Plan where
  tables := [⟨"projects", "Project",
    [⟨"id", .text, true, true, none⟩, ⟨"name", .text, true, false, none⟩], []⟩]
  joinTables := []
  indexes := []
  requiredJoins := []

/-- Planning `headline` makes its plan. -/
theorem plan_headline : headline.plan = .ok headlinePlan := by decide +kernel

end Schema

namespace Go

open Schema (headline)

/-- The Go file of `headline`. -/
def headlineFile : File where
  package := "models"
  generator := "entitygen"
  declarations := [.struct "Project" .entities
    [⟨"ID", "id", .pointer .string, false⟩, ⟨"Name", "name", .string, true⟩]]

/-- Go code for `headline` is its file. -/
theorem file_headline : file "models" "entitygen" headline = .ok headlineFile := by
  have hid : isIdentifier (Naming.camel "id") = true := by decide
  have hname : isIdentifier (Naming.camel "name") = true := by decide
  have hstruct : headline.entities.entries.mapM
      (fun e => entityStruct headline.vocabulary e.1 e.2) = .ok headlineFile.declarations := by
    refine Outcome.mapM_eq_ok_iff.2 (.cons (entityStruct_eq_ok_iff.2 ⟨by decide, _,
      fields_eq_ok_iff.2 (Outcome.mapM_eq_ok_iff.2 (.cons ?_ (.cons ?_ .nil))), rfl⟩) .nil)
    · exact field_eq_ok_iff.2 ⟨_, fieldType_text _ _, hid, by decide⟩
    · exact field_eq_ok_iff.2 ⟨_, fieldType_text _ _, hname, by decide⟩
  exact file_eq_ok_iff.2 ⟨⟨[], [], _, by decide, rfl, rfl, hstruct, rfl⟩⟩

/-- The file of `headline` can be laid out. -/
theorem exists_generate_headline :
    ∃ source, generate "models" "entitygen" headline = .ok source := by
  obtain ⟨source, -, hsource⟩ := exists_generate_of_file (by decide) file_headline
  exact ⟨source, hsource⟩

end Go

/-- The name of a project is required by its column and by its Go field, but not by its OpenAPI
component, which lists another spelling. -/
theorem required_agree_iff_headline :
    (∃ source, Go.generate "models" "entitygen" Schema.headline = .ok source) ∧
    (∃ document, OpenApi.generate "Projects" .standard Schema.headline = .ok document) ∧
    (∃ script, Sql.generate .postgres .standard Schema.headline = .ok script) ∧
    ∃ v field read, OpenApi.document "Projects" Schema.headline = .ok v ∧
      Go.headlineFile.HoldsField "Project" "name" field ∧ ¬field.OmitsEmpty ∧
      OpenApi.findComponent? v "Project" = some read ∧ ¬OpenApi.Requires read "name" := by
  obtain ⟨source, hgo⟩ := Go.exists_generate_headline
  obtain ⟨document, hopenapi⟩ : ∃ document,
      OpenApi.generate "Projects" .standard Schema.headline = .ok document := ⟨_, rfl⟩
  obtain ⟨script, hsql⟩ : ∃ script,
      Sql.generate .postgres .standard Schema.headline = .ok script :=
    ⟨_, Sql.generate_eq_ok_iff.2 ⟨_, Schema.plan_headline, rfl⟩⟩
  obtain ⟨f, v, p, ⟨hf, -⟩, ⟨hv, -⟩, ⟨hp, -⟩, hcolumns⟩ := required_agree_iff hgo hopenapi hsql
  obtain rfl : Go.headlineFile = f := Except.ok.inj (Go.file_headline.symm.trans hf)
  obtain rfl : Schema.headlinePlan = p := Except.ok.inj (Schema.plan_headline.symm.trans hp)
  obtain ⟨field, read, hfield, hread, htag, -, hagree⟩ := hcolumns _ (List.mem_singleton_self _)
    ⟨"name", .text, true, false, none⟩ (by decide) (by decide)
  have hcase : Schema.headline.Requires "Project" "name" ∧
      ¬Schema.headline.Lists "Project" "name" := by
    refine ⟨⟨_, rfl, "Name", List.mem_singleton_self _, by decide⟩, ?_⟩
    rintro ⟨entity, hentity, hlisted⟩
    obtain rfl := Option.some.inj hentity
    exact absurd (List.mem_singleton.1 hlisted) (by decide)
  exact ⟨⟨source, hgo⟩, ⟨document, hopenapi⟩, ⟨script, hsql⟩, v, field, read, hv, hfield,
    htag.1 rfl, hread, fun hlisted => hagree.1 (iff_of_true rfl hlisted) hcase⟩

end EntityModel
