import EntityModel.Artifact
import EntityModel.Proofs.Go.References
import EntityModel.Proofs.Go.LaidOut
import EntityModel.Proofs.OpenApi.References
import EntityModel.Proofs.Relational.References
import EntityModel.Proofs.Sql.Script

/-! # Unknown references

A schema may refer to what it does not define. Each kind of artifact looks up some of the references
only (`ArtifactKind.Reads`): documents look up all of them, but Go files and scripts none below the
members of an object, nor in a definition that nothing leads to. No artifact is made if one of those
that are looked up is unknown. It is then refused with an error, unless the search for a Go type
comes to no end before, for which one of the definitions that are looked up has to be an array of
itself (`ArtifactKind.refuses_unknown`). -/

namespace EntityModel

/-- The target is one that a property of an entity points to. -/
def Schema.PointsTo (s : Schema) (target : String) : Prop :=
  ∃ owner entity field p, s.entities.find? owner = some entity ∧
    entity.properties.find? field = some p ∧ p.PointsTo target

namespace ArtifactKind

/-- The target is one that is looked up to make an artifact of the kind. -/
def Reads (s : Schema) (target : String) : ArtifactKind → Prop
  | .go => Go.SchemaReads s target
  | .openapi => s.Mentions target
  | .sql _ => s.PlanReads target

/-- A definition that is looked up to make an artifact of the kind is an array of itself, or leads
by arrays to one that is. Only the search for Go types looks behind arrays. -/
def Circles (s : Schema) : ArtifactKind → Prop
  | .go => ∃ name, Go.SchemaReads s (Reference.definitionsPath ++ name) ∧
      Go.Endless s.vocabulary name
  | .openapi | .sql _ => False

/-- The artifact of the kind is refused: the program comes back with an error. -/
def Refuses (kind : ArtifactKind) (options : ArtifactOptions) (s : Schema) : Prop :=
  ∃ e, kind.generate options s = .error e ∧ e.IsReported

variable {s : Schema} {target : String}

/-- What properties of entities point to is looked up for every kind. -/
theorem reads_of_pointsTo (kind : ArtifactKind) (h : s.PointsTo target) : kind.Reads s target := by
  obtain ⟨owner, entity, field, p, hentity, hp, hpoints⟩ := h
  cases kind with
  | go => exact .inr ⟨owner, entity, hentity, (field, p), NameMap.find?_eq_some_iff.1 hp,
      .pointsTo hpoints⟩
  | openapi => exact .inr ⟨owner, entity, field, p, hentity, hp, hpoints.mentions⟩
  | sql d => exact ⟨owner, entity, field, p, hentity, hp, .inl (.inl hpoints)⟩

/-- What an error says about the making of an artifact: a target that it names as missing is one
that was looked up and is not known, and if it is not reported, then the making goes in a circle. -/
structure Explains (kind : ArtifactKind) (s : Schema) (e : GenerateError) : Prop where
  /-- What is named as missing is not known. -/
  blames : s.vocabulary.Blames (kind.Reads s ·) e.missing?
  /-- What is not reported goes in a circle. -/
  circles : ¬e.IsReported → kind.Circles s

/-- An artifact is made only if everything is known that is looked up for it, and otherwise the
error explains why not. -/
theorem ends_generate (options : ArtifactOptions) (s : Schema) (kind : ArtifactKind) :
    Outcome.Ends (kind.generate options s) (fun _ => s.vocabulary.AllKnown (kind.Reads s ·))
      (kind.Explains s) := by
  have hreported : ∀ e, s.vocabulary.Reports (kind.Reads s ·) e → kind.Explains s e :=
    fun e he => ⟨he.blames, fun hno => absurd he.isReported hno⟩
  cases kind with
  | go => exact (Go.ends_generate _ _ s).imp (fun _ h => h) fun e he => ⟨he.blames, he.endless⟩
  | openapi =>
    have hdocument := OpenApi.ends_document options.title s
    exact (hdocument.imp (fun _ h => h.2) fun e h => hreported e h.reports).bind fun _ h => h
  | sql d => exact (s.ends_plan.imp (fun _ h => h) hreported).map fun _ h => h

/-- **A reference that is not known makes every kind of artifact fail if a property of an entity
points to it, and documents fail wherever it is mentioned.** Any other kind fails if it is one that
is looked up, and an error that names a missing target names one of those. To fail means that the
program reports an error, except where it comes to no end: this takes a definition that is looked up
for a Go file and is an array of itself. -/
theorem refuses_unknown (options : ArtifactOptions) (s : Schema) :
    (∀ target, s.PointsTo target → ¬s.vocabulary.Knows target →
      ∀ kind : ArtifactKind, ¬kind.Circles s → kind.Refuses options s) ∧
    (∀ target, s.Mentions target → ¬s.vocabulary.Knows target →
      ArtifactKind.openapi.Refuses options s) ∧
    ∀ kind : ArtifactKind,
      (∀ target, kind.Reads s target → ¬s.vocabulary.Knows target →
        ∃ e, kind.generate options s = .error e) ∧
      ∀ e, kind.generate options s = .error e →
        (∀ target, e.missing? = some target → kind.Reads s target ∧ ¬s.vocabulary.Knows target) ∧
        (¬e.IsReported → kind.Circles s) := by
  have hfails : ∀ (kind : ArtifactKind) target, kind.Reads s target →
      ¬s.vocabulary.Knows target → ∃ e, kind.generate options s = .error e := by
    intro kind target hreads hknows
    cases h : kind.generate options s with
    | ok text => exact absurd ((ends_generate options s kind).of_eq_ok h target hreads) hknows
    | error e => exact ⟨e, rfl⟩
  have hrefuses : ∀ (kind : ArtifactKind) target, kind.Reads s target →
      ¬s.vocabulary.Knows target → ¬kind.Circles s → kind.Refuses options s := by
    intro kind target hreads hknows hcircles
    obtain ⟨e, he⟩ := hfails kind target hreads hknows
    have hexplains := (ends_generate options s kind).of_eq_error he
    exact ⟨e, he, by_contra fun hno => hcircles (hexplains.circles hno)⟩
  refine ⟨fun target hpoints hknows kind => ?_, fun target hmentions hknows => ?_,
    fun kind => ⟨hfails kind, fun e he => ?_⟩⟩
  · exact hrefuses kind target (kind.reads_of_pointsTo hpoints) hknows
  · exact hrefuses .openapi target hmentions hknows id
  · have hexplains := (ends_generate options s kind).of_eq_error he
    exact ⟨hexplains.blames, hexplains.circles⟩

end ArtifactKind

/-- A model with a cage, whose place is an object with a member that refers to a definition `room`,
which there is not. -/
def Schema.cage : Schema where
  version := "1"
  metadata := ⟨""⟩
  idSemantics := none
  enums := ∅
  definitions := ∅
  entities := .ofList [("Cage", {
    description := ""
    required := []
    properties := .ofList [("id", .primitive "string"), ("place", { Property.primitive "object" with
      properties := [("room", .refer "#/definitions/room")] })]
    relationships := ∅
    naturalKeys := []
    states := none
    invariants := [] })]

open Schema (cage)

/-- The place of a cage mentions the room. -/
theorem Schema.mentions_cage : cage.Mentions "#/definitions/room" := by
  have hroom : Property.Mentions (.refer "#/definitions/room") "#/definitions/room" :=
    .reference rfl
  exact .inr ⟨"Cage", _, "place", _, rfl, rfl,
    .member ⟨⟨rfl, .inr rfl⟩, "room", List.mem_singleton.2 rfl⟩ hroom⟩

/-- There is no room. -/
theorem Schema.not_knows_cage : ¬cage.vocabulary.Knows "#/definitions/room" := by
  rw [← Vocabulary.exists_resolveReference_iff]
  rintro ⟨type, htype⟩
  cases htype

namespace Go

/-- The Go file of `cage`. -/
def cageFile : File where
  package := "models"
  generator := "entitygen"
  declarations := [.struct "Cage" .entities
    [⟨"ID", "id", .pointer .string, false⟩, ⟨"Place", "place", .anyMap, false⟩]]

/-- Go code for `cage` is its file. -/
theorem file_cage : file "models" "entitygen" cage = .ok cageFile := by
  have hplace : ∀ p, cage.vocabulary.resolve p = .ok (.object ⟨p.properties, [], none⟩) →
      fieldType cage.vocabulary p false = .ok .anyMap := fun p hp =>
    fieldType_eq_ok_iff.2 ⟨_, _, hp, typeOf_eq_ok_iff.2 (.object _), rfl⟩
  have hentity : cage.entities.entries.mapM (fun e => entityStruct cage.vocabulary e.1 e.2) =
      .ok cageFile.declarations := by
    refine Outcome.mapM_eq_ok_iff.2 (.cons (entityStruct_eq_ok_iff.2 ⟨by decide, _,
      fields_eq_ok_iff.2 (Outcome.mapM_eq_ok_iff.2 (.cons ?_ (.cons ?_ .nil))), rfl⟩) .nil)
    · exact field_eq_ok_iff.2 ⟨_, fieldType_text _ _, by decide, by decide⟩
    · exact field_eq_ok_iff.2 ⟨_, hplace _ rfl, by decide, by decide⟩
  exact file_eq_ok_iff.2 ⟨⟨[], [], _, by decide, rfl, rfl, hentity, rfl⟩⟩

/-- The file of `cage` can be laid out. -/
theorem exists_generate_cage :
    ∃ source, generate "models" "entitygen" cage = .ok source := by
  obtain ⟨source, -, hsource⟩ := exists_generate_of_file (by decide) file_cage
  exact ⟨source, hsource⟩

end Go

/-- The plan of `cage`. -/
def Schema.cagePlan : Relational.Plan where
  tables := [⟨"cages", "Cage",
    [⟨"id", .text, true, true, none⟩, ⟨"place", .json, false, false, none⟩], []⟩]
  joinTables := []
  indexes := []
  requiredJoins := []

/-- Planning `cage` makes its plan. -/
theorem Schema.plan_cage : cage.plan = .ok cagePlan := by decide +kernel

namespace ArtifactKind

/-- Names for the artifacts of `cage`. -/
def cageOptions : ArtifactOptions := ⟨"models", "Cages", ⟨"entitygen", none⟩⟩

/-- Only the document of `cage` is refused. Nothing else looks up what the object mentions. -/
theorem refuses_unknown_cage :
    (cage.Mentions "#/definitions/room" ∧ ¬cage.vocabulary.Knows "#/definitions/room") ∧
      ArtifactKind.openapi.Refuses cageOptions cage ∧
      ∀ kind : ArtifactKind, kind ≠ .openapi →
        (∃ text, kind.generate cageOptions cage = .ok text) ∧
          ¬kind.Reads cage "#/definitions/room" := by
  obtain ⟨-, hdocument, hkinds⟩ := refuses_unknown cageOptions cage
  refine ⟨⟨Schema.mentions_cage, Schema.not_knows_cage⟩,
    hdocument _ Schema.mentions_cage Schema.not_knows_cage, fun kind hkind => ?_⟩
  have hmade : ∃ text, kind.generate cageOptions cage = .ok text := by
    cases kind with
    | go => exact Go.exists_generate_cage
    | openapi => exact absurd rfl hkind
    | sql d => exact ⟨_, Sql.generate_eq_ok_iff.2 ⟨_, Schema.plan_cage, rfl⟩⟩
  refine ⟨hmade, fun hreads => ?_⟩
  obtain ⟨text, htext⟩ := hmade
  obtain ⟨e, he⟩ := (hkinds kind).1 _ hreads Schema.not_knows_cage
  cases htext.symm.trans he

end ArtifactKind

end EntityModel
