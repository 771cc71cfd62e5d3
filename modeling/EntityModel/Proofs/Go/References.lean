import EntityModel.Proofs.Go.Declarations
import EntityModel.Proofs.Go.Endless

/-! # References of Go files

The Go type of a property is found without a look at the members of an object. A definition that is
known by name, or has a struct, is not looked into either; every other one is followed. So only some
of the references of a schema are read for its file (`Go.SchemaReads`). If no file is made, then the
error says what is missing of them, or one of them leads to a type without an end
(`Go.ends_generate`). -/

namespace EntityModel.Go

open Reference

/-- The target is one that is looked up to find the Go type of the property: the one that the
property points to, or one that is looked up for what a definition leads to. Definitions that are
known by name, or have a struct, are not looked into. -/
inductive Reads (v : Vocabulary) : Property → String → Prop
  /-- What the property points to. -/
  | pointsTo {p : Property} {target : String} (h : p.PointsTo target) : Reads v p target
  /-- What is looked up for a definition that the property points to. -/
  | definition {p q r : Property} {name target : String}
      (h : p.PointsTo (definitionsPath ++ name)) (hnone : WellKnown.ofDefinition? name = none)
      (hplain : hasStruct v name = false) (hq : v.definitions.find? name = some q)
      (hr : v.LeadsTo q r) (hreads : Reads v r target) : Reads v p target

section

variable {v : Vocabulary} {p q e : Property} {type found : SemanticType}

/-- What is read for a property is known if it has a meaning, and all is known that is read for the
definition that it means. -/
theorem allKnown_reads (hp : v.resolve p = .ok found)
    (h : ∀ name, found.innermost = .definition name → WellKnown.ofDefinition? name = none →
      hasStruct v name = false → ∀ q r, v.definitions.find? name = some q → v.LeadsTo q r →
      v.AllKnown (Reads v r)) : v.AllKnown (Reads v p) := by
  rintro target (hpoints | ⟨hpoints, hnone, hplain, hq, hr, hreads⟩)
  · exact Vocabulary.exists_resolve_iff.1 ⟨found, hp⟩ target hpoints
  · refine h _ ?_ hnone hplain _ _ hq hr target hreads
    have hfound := (Vocabulary.resolve_of_pointsTo hpoints).2 found hp
    have hdefinition := Vocabulary.resolve_refer hq
    rw [Vocabulary.resolve_reference rfl, hfound] at hdefinition
    exact Except.ok.inj hdefinition

/-- Where references lead from definition to definition, all that is read on the way is known if it
is at the end. -/
theorem allKnown_reads_of_leadsTo {r : Property} (hend : v.AllKnown (Reads v e))
    (hway : ∀ r, v.LeadsTo q r → r = e ∨ ∃ name, v.resolve r = .ok (.definition name))
    (hr : v.LeadsTo q r) : v.AllKnown (Reads v r) := by
  intro target hreads
  induction hreads with
  | @pointsTo r target hpoints =>
    rcases hway r hr with rfl | ⟨name, hname⟩
    · exact hend target (.pointsTo hpoints)
    · exact Vocabulary.exists_resolve_iff.1 ⟨_, hname⟩ target hpoints
  | @definition r q' r' name target hpoints hnone hplain hq' hr' hreads ih =>
    rcases hway r hr with rfl | ⟨name', hname'⟩
    · exact hend target (.definition hpoints hnone hplain hq' hr' hreads)
    · -- The property is a reference, so the definition is the next one on the way.
      have hreference := (Vocabulary.resolve_eq_definition_iff.1 hname').1
      have htarget := (Property.pointsTo_iff_of_reference hreference).1 hpoints
      exact ih (hr.trans (.head ⟨name, htarget ▸ hreference, hq'⟩ hr'))

/-- What an error says about the targets that were looked up: one that it names as missing is one of
them that is not known, and if the program does not report it, then one of them is a definition
whose type has no end. -/
structure Explains (v : Vocabulary) (targets : String → Prop) (missing : Option String)
    (reported : Prop) : Prop where
  /-- What is named as missing is not known. -/
  blames : v.Blames targets missing
  /-- What is not reported has no end. -/
  endless : ¬reported → ∃ name, targets (definitionsPath ++ name) ∧ Endless v name

/-- What is said about some targets is said about all of them. -/
theorem Explains.mono {targets others : String → Prop} {missing : Option String} {reported : Prop}
    (h : Explains v targets missing reported) (hsub : ∀ target, targets target → others target) :
    Explains v others missing reported := by
  refine ⟨h.blames.mono hsub, fun hno => ?_⟩
  obtain ⟨name, hname, hendless⟩ := h.endless hno
  exact ⟨name, hsub _ hname, hendless⟩

/-- What is reported explains itself if it blames the right targets. -/
theorem Explains.of_reported {targets : String → Prop} {missing : Option String} {reported : Prop}
    (h : v.Blames targets missing) (hreported : reported) : Explains v targets missing reported :=
  ⟨h, fun hno => absurd hreported hno⟩

/-- What the search for a type ends with tells whether all is known that is read for a property that
means the type. -/
theorem ends_typeFor {outcome : Except ResolveError GoType} (h : TypeFor v type outcome)
    (hp : v.resolve p = .ok found) (hfound : found.innermost = type.innermost) :
    Outcome.Ends outcome (fun _ => v.AllKnown (Reads v p))
      fun x => v.Blames (Reads v p) x.missing? := by
  -- A property may mean an array of the type that is looked up: the two agree behind arrays only.
  induction h generalizing p found with
  | primitive | enumeration | object | any =>
    exact allKnown_reads hp fun name hname => by cases hname.symm.trans hfound
  | wellKnown hknown =>
    refine allKnown_reads hp fun name hname hnone => ?_
    obtain rfl := SemanticType.definition.inj (hname.symm.trans hfound)
    cases hknown.symm.trans hnone
  | struct _ hstruct =>
    refine allKnown_reads hp fun name hname _ hplain => ?_
    obtain rfl := SemanticType.definition.inj (hname.symm.trans hfound)
    cases hstruct.symm.trans hplain
  | unresolved hnone hplain hx =>
    obtain ⟨hp, hname⟩ := Vocabulary.pointsTo_of_innermost_eq_definition hp hfound
    obtain ⟨q, hq⟩ := Option.isSome_iff_exists.1 hname
    intro target hmissing
    obtain ⟨⟨r, hr, hpoints⟩, hknows⟩ :=
      Vocabulary.blames_of_underlying_eq_error hq hx target hmissing
    exact ⟨.definition hp hnone hplain hq hr (.pointsTo hpoints), hknows⟩
  | behind hnone hplain hbehind _ ih =>
    -- What stands behind the definition is what the last one means that it leads to.
    obtain ⟨q, hq⟩ := Vocabulary.exists_find?_of_underlying hbehind
    obtain ⟨e, he, hresolve, hway⟩ := Vocabulary.exists_leadsTo_of_underlying hq hbehind
    refine (ih hresolve rfl).imp (fun _ hend => ?_) fun x hblames => hblames.mono ?_
    · refine allKnown_reads hp fun name hname _ _ q' r hq' hr => ?_
      obtain rfl := SemanticType.definition.inj (hname.symm.trans hfound)
      obtain rfl := Option.some.inj (hq.symm.trans hq')
      exact allKnown_reads_of_leadsTo hend hway hr
    · have hp := (Vocabulary.pointsTo_of_innermost_eq_definition hp hfound).1
      exact fun target => .definition hp hnone hplain hq he
  | array _ ih => exact (ih hp hfound).map fun _ h => h

/-- A type that a property means is found only if all is known that is read for the property, and
otherwise the error explains why not. -/
theorem ends_typeOf (hp : v.resolve p = .ok type) : Outcome.Ends (typeOf v type)
    (fun _ => v.AllKnown (Reads v p)) fun x => Explains v (Reads v p) x.missing? x.IsReported := by
  cases h : typeOf v type with
  | ok g => exact (ends_typeFor (typeOf_eq_ok_iff.1 h) hp rfl).of_eq_ok rfl
  | error x =>
    rcases typeOf_eq_error_iff.1 h with ⟨cause, hcause, rfl⟩ | ⟨hnone, rfl⟩
    · exact .of_reported ((ends_typeFor hcause hp rfl).of_eq_error rfl) trivial
    · refine ⟨Vocabulary.blames_of_eq_none rfl, fun _ => ?_⟩
      obtain ⟨name, hname, hendless⟩ := goType?_eq_none_iff.1 hnone
      exact ⟨name, .pointsTo (Vocabulary.pointsTo_of_innermost_eq_definition hp hname).1, hendless⟩

/-- The type of a field is found only if all is known that is read for its property. -/
theorem ends_fieldType (p : Property) (required : Bool) : Outcome.Ends (fieldType v p required)
    (fun _ => v.AllKnown (Reads v p))
    fun x => Explains v (Reads v p) x.missing? x.IsReported := by
  unfold fieldType
  cases hp : v.resolve p with
  | error x =>
    have hblames := (Vocabulary.someMissing_of_resolve_eq_error hp).blames
    exact .of_reported (hblames.mono fun _ => .pointsTo) trivial
  | ok found => exact (ends_typeOf hp).bind fun _ h => h

end

/-! ## Declarations -/

/-- The target is read for one of the properties. -/
def ReadsOneOf (v : Vocabulary) (properties : List (String × Property)) (target : String) : Prop :=
  ∃ e ∈ properties, Reads v e.2 target

section

variable {v : Vocabulary} {targets : String → Prop} {x : GenerateError}

/-- A name that cannot be declared is an error that names no target. -/
theorem explains_of_declarable {name : String} (h : declarable name = .error x) :
    Explains v targets x.missing? x.IsReported := by
  unfold declarable at h
  split at h <;> cases h
  exact .of_reported (Vocabulary.blames_of_eq_none rfl) trivial

/-- Writing a field fails for its name only. -/
theorem explains_of_field {typed : String × GoType × Bool} (h : field typed = .error x) :
    Explains v targets x.missing? x.IsReported := by
  rcases Outcome.bind_eq_error_iff.1 h with hname | ⟨name, -, hpure⟩
  · exact explains_of_declarable hname
  · cases hpure

/-- Enumerations read nothing. -/
theorem explains_of_enumerations {enums : List (String × Enumeration)}
    (h : enumerations enums = .error x) : Explains v targets x.missing? x.IsReported := by
  rw [enumerations_eq_mapM] at h
  obtain ⟨e, -, hstep⟩ := Outcome.exists_error h
  cases he : enumeration e.1 e.2 with
  | ok d => cases (congrArg _ he).symm.trans hstep
  | error cause =>
    rw [he] at hstep
    cases hstep
    exact .of_reported (Vocabulary.blames_of_eq_none rfl) trivial

/-- A property with its type fails as the search for the type does. -/
theorem typedProperty_eq_map (isRequired : String → Bool)
    (wrap : String → TypeError → GenerateError) (name : String) (p : Property) :
    typedProperty v isRequired wrap name p = (fun type => (name, type, isRequired name)) <$>
      (fieldType v p (isRequired name)).mapError (wrap name) := by
  unfold typedProperty
  cases fieldType v p (isRequired name) <;> rfl

/-- Fields are made only if everything is known that is read for their properties. -/
theorem ends_fields {isRequired : String → Bool} {wrap : String → TypeError → GenerateError}
    (hwrap : ∀ name x, (wrap name x).missing? = x.missing? ∧
      (wrap name x).IsReported = x.IsReported) (ps : List (String × Property)) :
    Outcome.Ends (fields v isRequired wrap ps) (fun _ => v.AllKnown (ReadsOneOf v ps))
      fun x => Explains v (ReadsOneOf v ps) x.missing? x.IsReported := by
  have hstep : ∀ e ∈ ps, Outcome.Ends (typedProperty v isRequired wrap e.1 e.2)
      (fun _ => v.AllKnown (Reads v e.2))
      fun x => Explains v (Reads v e.2) x.missing? x.IsReported := by
    intro e _
    rw [typedProperty_eq_map]
    refine Outcome.Ends.map (Outcome.Ends.mapError (ends_fieldType e.2 _) fun x hx => ?_)
      fun _ h => h
    rwa [(hwrap e.1 x).1, (hwrap e.1 x).2]
  have htyped : Outcome.Ends (ps.mapM fun e => typedProperty v isRequired wrap e.1 e.2)
      (fun _ => v.AllKnown (ReadsOneOf v ps))
      fun x => Explains v (ReadsOneOf v ps) x.missing? x.IsReported :=
    Vocabulary.ends_mapM_reads hstep fun e he x hx => hx.mono fun target hreads => ⟨e, he, hreads⟩
  refine Outcome.Ends.bind htyped fun typed hknown => ?_
  refine (Outcome.Ends.of_error fun x hx => ?_).imp (fun _ _ => hknown) fun _ h => h
  obtain ⟨t, -, hstep⟩ := Outcome.exists_error hx
  exact explains_of_field hstep

/-- The struct of a definition is made only if everything is known that is read for its members. -/
theorem ends_definitionStruct (name : String) (p : Property) :
    Outcome.Ends (definitionStruct v name p) (fun _ => v.AllKnown (ReadsOneOf v p.properties))
      fun x => Explains v (ReadsOneOf v p.properties) x.missing? x.IsReported := by
  refine (Outcome.Ends.of_error fun x hx => ?_).bind fun _ _ =>
    (ends_fields (fun _ _ => ⟨rfl, rfl⟩) p.properties).bind fun _ h => h
  exact explains_of_declarable hx

/-- The struct of an entity is made only if everything is known that is read for its properties. -/
theorem ends_entityStruct (name : String) (e : Entity) :
    Outcome.Ends (entityStruct v name e)
      (fun _ => v.AllKnown (ReadsOneOf v e.properties.entries))
      fun x => Explains v (ReadsOneOf v e.properties.entries) x.missing? x.IsReported := by
  refine (Outcome.Ends.of_error fun x hx => ?_).bind fun _ _ =>
    (ends_fields (fun _ _ => ⟨rfl, rfl⟩) e.properties.entries).bind fun _ h => h
  exact explains_of_declarable hx

end

/-! ## Files -/

/-- The target is read for the file of the schema: for a member of a definition that has a struct,
or for a property of an entity. -/
def SchemaReads (s : Schema) (target : String) : Prop :=
  (∃ name p, s.definitions.find? name = some p ∧ isStructDefinition p = true ∧
    ReadsOneOf s.vocabulary p.properties target) ∨
  ∃ name e, s.entities.find? name = some e ∧
    ReadsOneOf s.vocabulary e.properties.entries target

/-- A file is made only if everything is known that is read for it, and otherwise the error explains
why not. -/
theorem ends_file (package generator : String) (s : Schema) :
    Outcome.Ends (file package generator s) (fun _ => s.vocabulary.AllKnown (SchemaReads s))
      fun x => Explains s.vocabulary (SchemaReads s) x.missing? x.IsReported := by
  have hdefinitions : Outcome.Ends (definitionStructs s.vocabulary s.definitions.entries)
      (fun _ => s.vocabulary.AllKnown fun target =>
        ∃ d ∈ s.definitions.entries.filter fun d => isStructDefinition d.2,
          ReadsOneOf s.vocabulary d.2.properties target)
      fun x => Explains s.vocabulary (SchemaReads s) x.missing? x.IsReported := by
    refine Vocabulary.ends_mapM_reads (fun d _ => ends_definitionStruct d.1 d.2) fun d hd x hx => ?_
    obtain ⟨hmem, hstruct⟩ := List.mem_filter.1 hd
    exact hx.mono fun target hreads =>
      .inl ⟨d.1, d.2, NameMap.find?_eq_some_iff.2 hmem, hstruct, hreads⟩
  have hentities : Outcome.Ends
      (s.entities.entries.mapM fun e => entityStruct s.vocabulary e.1 e.2)
      (fun _ => s.vocabulary.AllKnown fun target =>
        ∃ e ∈ s.entities.entries, ReadsOneOf s.vocabulary e.2.properties.entries target)
      fun x => Explains s.vocabulary (SchemaReads s) x.missing? x.IsReported := by
    refine Vocabulary.ends_mapM_reads (fun e _ => ends_entityStruct e.1 e.2) fun e he x hx => ?_
    exact hx.mono fun target hreads =>
      .inr ⟨e.1, e.2, NameMap.find?_eq_some_iff.2 he, hreads⟩
  -- The package and the enumerations read nothing, so their errors explain themselves.
  refine (Outcome.Ends.of_error fun x hx => explains_of_declarable hx).bind fun _ _ => ?_
  refine (Outcome.Ends.of_error fun x hx => explains_of_enumerations hx).bind fun _ _ => ?_
  refine hdefinitions.bind fun _ hknownD => hentities.bind fun _ hknownE => ?_
  rintro target (⟨name, p, hp, hstruct, hreads⟩ | ⟨name, e, he, hreads⟩)
  · exact hknownD target
      ⟨(name, p), List.mem_filter.2 ⟨NameMap.find?_eq_some_iff.1 hp, hstruct⟩, hreads⟩
  · exact hknownE target ⟨(name, e), NameMap.find?_eq_some_iff.1 he, hreads⟩

/-- Laying out a file reads nothing more, and is an error that is reported. -/
theorem ends_generate (package generator : String) (s : Schema) :
    Outcome.Ends (generate package generator s) (fun _ => s.vocabulary.AllKnown (SchemaReads s))
      fun x => Explains s.vocabulary (SchemaReads s) x.missing? x.IsReported := by
  refine (ends_file package generator s).bind fun f hknown => ?_
  cases layout f.text with
  | ok source => exact hknown
  | error cause => exact .of_reported (Vocabulary.blames_of_eq_none rfl) trivial

end EntityModel.Go
