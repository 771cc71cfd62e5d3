import EntityModel.Proofs.Relational.WellFormed
import EntityModel.Proofs.Types.Following

/-! # References of plans

The type of a column is found without a look at the items of an array or the members of an object,
and whether a relationship leads to many is told in the same way. A definition is followed, but for
a column not if it is known by name. Only properties of entities are read for a plan
(`Schema.PlanReads`), and of the definitions those that they lead to; the first of them that is
missing is the error of planning (`Schema.ends_plan`). -/

namespace EntityModel

open Relational Reference

/-! ## Columns and shapes -/

namespace Vocabulary

variable {v : Vocabulary} {p q : Property} {target : String} {type : SemanticType}

/-- The target is one that is looked up to find the type of a column: the one that the property
points to, or one that stands on the way from its definition. Definitions that are known by name are
not looked into. -/
def ColumnReads (v : Vocabulary) (p : Property) (target : String) : Prop :=
  p.PointsTo target ∨ ∃ name q, p.reference = some (definitionsPath ++ name) ∧
    WellKnown.ofDefinition? name = none ∧ v.definitions.find? name = some q ∧ v.Follows q target

/-- What is read for a column is known if the property has a meaning, and all is known that stands
on the way from the definition that it means. -/
theorem allKnown_columnReads (hp : v.resolve p = .ok type)
    (h : ∀ name, type = .definition name → WellKnown.ofDefinition? name = none →
      ∀ q, v.definitions.find? name = some q → v.AllKnown (v.Follows q)) :
    v.AllKnown (v.ColumnReads p) := by
  rintro target (hpoints | ⟨name, q, hreference, hnone, hq, hfollows⟩)
  · exact exists_resolve_iff.1 ⟨type, hp⟩ target hpoints
  · refine h name ?_ hnone q hq target hfollows
    have hdefinition := resolve_eq_definition_iff.2
      ⟨hreference, Option.isSome_iff_exists.2 ⟨q, hq⟩⟩
    exact Except.ok.inj (hp.symm.trans hdefinition)

/-- What a property means has a column if everything is known that is read for it. -/
theorem ends_columnOfType (hp : v.resolve p = .ok type) : Outcome.Ends (v.columnOfType type)
    (fun _ => v.AllKnown (v.ColumnReads p)) fun x => v.Blames (v.ColumnReads p) x.missing? := by
  cases type with
  | definition name =>
    obtain ⟨hreference, hname⟩ := resolve_eq_definition_iff.1 hp
    obtain ⟨q, hq⟩ := Option.isSome_iff_exists.1 hname
    cases hknown : WellKnown.ofDefinition? name with
    | some known =>
      -- Nothing but the name of the definition decides.
      simp only [columnOfType, hknown]
      refine allKnown_columnReads hp fun name' hname hnone => ?_
      obtain rfl := SemanticType.definition.inj hname
      cases hknown.symm.trans hnone
    | none =>
      simp only [columnOfType, hknown]
      cases hbehind : v.underlying (.definition name) with
      | error x =>
        exact (blames_of_underlying_eq_error hq hbehind).mono fun target hfollows =>
          .inr ⟨name, q, hreference, hknown, hq, hfollows⟩
      | ok behind =>
        refine allKnown_columnReads hp fun name' hname _ q' hq' => ?_
        obtain rfl := SemanticType.definition.inj hname
        exact fun target hfollows => allKnown_follows (resolve_refer hq') hbehind target
          (((refersTo_refer_iff hq').2 rfl).follows hfollows)
  | _ => exact allKnown_columnReads hp fun name hname => by cases hname

/-- A property has a column exactly if everything is known that is read for it, unless references
lead back to a definition. -/
theorem ends_columnShape (p : Property) : Outcome.Ends (v.columnShape p)
    (fun _ => v.AllKnown (v.ColumnReads p)) fun x => v.Blames (v.ColumnReads p) x.missing? := by
  unfold columnShape
  cases hp : v.resolve p with
  | error x => exact (someMissing_of_resolve_eq_error hp).blames.mono fun _ => .inl
  | ok type => exact ends_columnOfType hp

/-- Whether a property is an array is found by following it. -/
theorem ends_isArray (p : Property) : Outcome.Ends (v.isArray p)
    (fun _ => v.AllKnown (v.Follows p)) fun x => v.Blames (v.Follows p) x.missing? := by
  unfold isArray
  cases hp : v.resolve p with
  | error x => exact (someMissing_of_resolve_eq_error hp).blames.mono fun _ => follows_of_pointsTo
  | ok type =>
    cases hbehind : v.underlying type with
    | error x =>
      simp only [bind, Except.bind, hbehind]
      exact blames_of_follow_eq_error hp hbehind
    | ok behind =>
      simp only [bind, Except.bind, hbehind]
      exact allKnown_follows hp hbehind

/-- What is read for a column stands on the way that is followed. -/
theorem follows_of_columnReads (h : v.ColumnReads p target) : v.Follows p target := by
  rcases h with hpoints | ⟨name, q, hreference, -, hq, hfollows⟩
  · exact follows_of_pointsTo hpoints
  · exact RefersTo.follows ⟨name, hreference, hq⟩ hfollows

end Vocabulary

namespace Schema

/-! ## Plans -/

/-- The target is read for the plan of the schema: for the column of a property, or, if it holds a
relationship, to find out whether it is an array. -/
def PlanReads (s : Schema) (target : String) : Prop :=
  ∃ owner entity field p, s.entities.find? owner = some entity ∧
    entity.properties.find? field = some p ∧
    (s.vocabulary.ColumnReads p target ∨
      (∃ r, entity.relationships.find? field = some r) ∧ s.vocabulary.Follows p target)

section

variable {s : Schema} {owner field : String} {entity : Entity} {x : GenerateError}

/-- The error of a type that is missing blames what is read for the column. -/
theorem blames_of_columnShape_eq_error {p : Property} {cause : ResolveError}
    (hentity : s.entities.find? owner = some entity) (hp : entity.properties.find? field = some p)
    (h : s.vocabulary.columnShape p = .error cause) :
    s.vocabulary.Blames s.PlanReads cause.missing? :=
  ((Vocabulary.ends_columnShape p).of_eq_error h).mono fun _ hreads =>
    ⟨owner, entity, field, p, hentity, hp, .inl hreads⟩

/-- What is wrong with an identifier is reported, and blames what is read for its column. -/
theorem reports_of_idType_eq_error (hentity : s.entities.find? owner = some entity)
    (h : idType s.vocabulary owner entity = .error x) :
    s.vocabulary.Reports s.PlanReads x := by
  unfold idType at h
  split at h
  · cases h
    exact ⟨trivial, Vocabulary.blames_of_eq_none rfl⟩
  · rename_i p hp
    split at h
    · rename_i cause hcause
      cases h
      exact ⟨trivial, blames_of_columnShape_eq_error hentity hp hcause⟩
    · split at h
      · cases h
      · cases h
        exact ⟨trivial, Vocabulary.blames_of_eq_none rfl⟩

/-- What is wrong with one of the identifiers is reported, and blames what is read. -/
theorem reports_of_idTypesFrom_eq_error {owners : List (String × String)}
    {entries : List (String × Entity)} (hentries : ∀ e ∈ entries, s.entities.find? e.1 = some e.2)
    (h : idTypesFrom s.vocabulary owners entries = .error x) :
    s.vocabulary.Reports s.PlanReads x := by
  -- The tables before an entity only matter for a duplicate, and that error names no target.
  induction entries generalizing owners with
  | nil => cases h
  | cons e rest ih =>
    obtain ⟨hentity, hrest⟩ := List.forall_mem_cons.1 hentries
    rw [idTypesFrom] at h
    cases hfind : Entries.find? (Naming.tableName e.1) owners with
    | some first =>
      simp only [hfind] at h
      cases h
      exact ⟨trivial, Vocabulary.blames_of_eq_none rfl⟩
    | none =>
      simp only [hfind] at h
      rcases Outcome.bind_eq_error_iff.1 h with htype | ⟨type, -, h⟩
      · exact reports_of_idType_eq_error hentity htype
      · rcases Outcome.bind_eq_error_iff.1 h with hothers | ⟨_, -, hpure⟩
        · exact ih hrest hothers
        · cases hpure

/-- What is wrong with a relationship is reported, and blames what its field is followed to. -/
theorem reports_of_link_eq_error {r : Relationship} (hentity : s.entities.find? owner = some entity)
    (hr : entity.relationships.find? field = some r) (h : s.link owner entity field r = .error x) :
    s.vocabulary.Reports s.PlanReads x := by
  unfold link at h
  split at h
  · cases h
    exact ⟨trivial, Vocabulary.blames_of_eq_none rfl⟩
  · rename_i p hp
    split at h
    · cases h
      exact ⟨trivial, Vocabulary.blames_of_eq_none rfl⟩
    · split at h
      · rename_i cause hcause
        cases h
        have hblames := (Vocabulary.ends_isArray p).of_eq_error hcause
        exact ⟨trivial, hblames.mono fun _ hfollows =>
          ⟨owner, entity, field, p, hentity, hp, .inr ⟨⟨r, hr⟩, hfollows⟩⟩⟩
      · cases h

/-- What is wrong with one of the relationships is reported, and blames what is read. -/
theorem reports_of_storedLinks_eq_error (h : s.storedLinks = .error x) :
    s.vocabulary.Reports s.PlanReads x := by
  rcases Outcome.bind_eq_error_iff.1 h with hlinks | ⟨links, -, hstored⟩
  · rcases Outcome.bind_eq_error_iff.1 hlinks with hall | ⟨_, -, hpure⟩
    · obtain ⟨⟨owner, entity⟩, he, hentity⟩ := Outcome.exists_error hall
      obtain ⟨⟨field, r⟩, hr, hlink⟩ := Outcome.exists_error hentity
      exact reports_of_link_eq_error (NameMap.find?_eq_some_iff.2 he)
        (NameMap.find?_eq_some_iff.2 hr) hlink
    · cases hpure
  · obtain ⟨l, -, hstep⟩ := Outcome.exists_error hstored
    unfold storeLink at hstep
    split at hstep
    · cases hstep
    · cases hstep
      exact ⟨trivial, Vocabulary.blames_of_eq_none rfl⟩

/-- What is wrong with a table is reported, and blames what is read for its columns. -/
theorem reports_of_table_eq_error {links : List StoredLink}
    (hentity : s.entities.find? owner = some entity)
    (h : table s.vocabulary links owner entity = .error x) :
    s.vocabulary.Reports s.PlanReads x := by
  rcases Outcome.bind_eq_error_iff.1 h with hcolumns | ⟨_, -, hpure⟩
  · obtain ⟨⟨field, p⟩, he, hcolumn⟩ := Outcome.exists_error hcolumns
    have hp := NameMap.find?_eq_some_iff.2 (List.mem_filter.1 he).1
    have hcolumn : column s.vocabulary owner entity field p = .error x := hcolumn
    unfold column at hcolumn
    split at hcolumn
    · rename_i cause hcause
      cases hcolumn
      exact ⟨trivial, blames_of_columnShape_eq_error hentity hp hcause⟩
    · cases hcolumn
  · cases hpure

/-- Natural keys read nothing. -/
theorem reports_of_keyIndexes_eq_error {name : String} {t : Table} {position : Nat}
    {keys : List NaturalKey} (h : keyIndexes name t position keys = .error x) :
    s.vocabulary.Reports s.PlanReads x := by
  induction keys generalizing position with
  | nil => cases h
  | cons key rest ih =>
    rcases Outcome.bind_eq_error_iff.1 h with hkey | ⟨index, -, h⟩
    · unfold keyIndex at hkey
      split at hkey
      · cases hkey
      · split at hkey
        · cases hkey
          exact ⟨trivial, Vocabulary.blames_of_eq_none rfl⟩
        · cases hkey
    · rcases Outcome.bind_eq_error_iff.1 h with hrest | ⟨_, -, hpure⟩
      · exact ih hrest
      · cases hpure

/-- If a plan is not made, then the error is reported, and a target that it names as missing is read
for the plan. -/
theorem reports_of_plan_eq_error (h : s.plan = .error x) :
    s.vocabulary.Reports s.PlanReads x := by
  rcases Outcome.bind_eq_error_iff.1 h with hid | ⟨idTypes, -, h⟩
  · exact reports_of_idTypesFrom_eq_error (fun e he => NameMap.find?_eq_some_iff.2 he) hid
  · rcases Outcome.bind_eq_error_iff.1 h with hlinks | ⟨links, -, h⟩
    · exact reports_of_storedLinks_eq_error hlinks
    · rcases Outcome.bind_eq_error_iff.1 h with htables | ⟨tables, -, h⟩
      · obtain ⟨⟨owner, entity⟩, he, htable⟩ := Outcome.exists_error htables
        exact reports_of_table_eq_error (NameMap.find?_eq_some_iff.2 he) htable
      · rcases Outcome.bind_eq_error_iff.1 h with hindexes | ⟨_, -, hpure⟩
        · obtain ⟨⟨owner, entity⟩, -, hindex⟩ := Outcome.exists_error hindexes
          have hindex : entityIndexes tables owner entity = .error x := hindex
          unfold entityIndexes at hindex
          split at hindex
          · cases hindex
          · exact reports_of_keyIndexes_eq_error hindex
        · cases hpure

end

/-- What is read for a plan that is made is known. -/
theorem allKnown_of_plan_eq_ok {s : Schema} {p : Plan} (h : s.plan = .ok p) :
    s.vocabulary.AllKnown s.PlanReads := by
  obtain ⟨ps⟩ := plan_eq_ok_iff.1 h
  have hlinks := (exists_links ps.links_eq).1
  -- What holds a relationship has been followed.
  have hfollowed : ∀ owner entity field q, s.entities.find? owner = some entity →
      entity.properties.find? field = some q → (∃ isArray, s.HasShape owner field isArray) →
      s.vocabulary.AllKnown (s.vocabulary.Follows q) := by
    rintro owner entity field q hentity hq ⟨isArray, entity', q', hentity', hq', hshape⟩
    obtain rfl := Option.some.inj (hentity.symm.trans hentity')
    obtain rfl := Option.some.inj (hq.symm.trans hq')
    exact (Vocabulary.ends_isArray q).of_eq_ok hshape
  rintro target ⟨owner, entity, field, q, hentity, hq, hcolumn | ⟨⟨r, hr⟩, hfollows⟩⟩
  · -- A property without a column is one that a relationship takes away, so it has been followed.
    by_cases hdrops : s.DropsField owner field
    · exact hfollowed owner entity field q hentity hq ⟨true, hdrops.1⟩ target
        (Vocabulary.follows_of_columnReads hcolumn)
    · obtain ⟨type, entity', q', shape, hentity', hq', hshape, -⟩ :=
        (exists_tables_iff ps.links_eq).1 ⟨_, ps.tables_eq⟩ owner field
          ⟨⟨entity, hentity, Option.isSome_iff_exists.2 ⟨q, hq⟩⟩, hdrops⟩
      obtain rfl := Option.some.inj (hentity.symm.trans hentity')
      obtain rfl := Option.some.inj (hq.symm.trans hq')
      exact (Vocabulary.ends_columnShape q).of_eq_ok hshape target hcolumn
  · have hshape := (exists_links_iff.1 ⟨_, hlinks⟩ owner field r ⟨entity, hentity, hr⟩).2
    exact hfollowed owner entity field q hentity hq hshape target hfollows

/-- A plan is made only if everything is known that is read for it. An error is reported, and names
a missing target only if this one is read. -/
theorem ends_plan (s : Schema) : Outcome.Ends s.plan (fun _ => s.vocabulary.AllKnown s.PlanReads)
    (s.vocabulary.Reports s.PlanReads) := by
  cases h : s.plan with
  | ok p => exact allKnown_of_plan_eq_ok h
  | error x => exact reports_of_plan_eq_error h

end Schema

end EntityModel
