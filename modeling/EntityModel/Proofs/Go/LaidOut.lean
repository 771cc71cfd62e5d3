import EntityModel.Proofs.Go.TypeNames

/-! # Files can be laid out

Names of enumerations, values and properties stand in comments, literals and tags as they are. That
none of them ends a tag or a line follows from their camel case, which was declared. So the brackets
and literals of every file are closed (`exists_layout_eq_ok`), and source code is refused for a name
that cannot be declared and for nothing else (`generate_refuses_names`). -/

namespace EntityModel.Go

/-! ## Marks of lines -/

/-- A type has no brackets but pairs of them. -/
theorem GoType.exists_scans {type : GoType} (h : ∀ name ∈ type.name?, isIdentifier name = true) :
    ∃ ms, Nested ms ∧ Scans type.text.toList ms := by
  have hpair : Nested [.bracket '[', .bracket ']'] := .pair rfl .nil
  have hopening : Scans ['['] [.bracket '['] := .bracket (by decide)
  have hclosing : Scans [']'] [.bracket ']'] := .bracket (by decide)
  induction type with
  | named name => exact ⟨[], .nil, .of_quiet (quiet_of_isIdentifier (h name rfl))⟩
  | anyMap =>
    have hmap : Scans "map".toList [] := .of_quiet (by decide)
    have hstring : Scans "string".toList [] := .of_quiet (by decide)
    have hany : Scans "any".toList [] := .of_quiet (by decide)
    exact ⟨_, hpair, (((hmap.append hopening).append hstring).append hclosing).append hany⟩
  | slice items ih =>
    obtain ⟨ms, hms, hscans⟩ := ih h
    rw [text, String.toList_append]
    exact ⟨_, .append hpair hms, (hopening.append hclosing).append hscans⟩
  | pointer value ih =>
    obtain ⟨ms, hms, hscans⟩ := ih h
    have hstar : Scans "*".toList [] := .of_quiet (by decide)
    rw [text, String.toList_append]
    exact ⟨_, hms, hstar.append hscans⟩
  -- The other types are names of the language.
  | _ => exact ⟨[], .nil, .of_quiet (by decide)⟩

/-- The name of a property does not end the tag that it stands in. -/
theorem Field.scans_tag {f : Field} (h : isIdentifier (Naming.camel f.property) = true) :
    Scans f.tag.toList [] := by
  have hproperty : '\x60' ∉ f.property.toList :=
    notMem_of_isIdentifier_camel h (by decide) (by decide) (by decide) (by decide) (by decide)
  have htag : f.tag.toList = '\x60' :: (("json:\"" ++ f.property ++
      (if f.required then "" else ",omitempty") ++ "\"").toList ++ ['\x60']) := by
    simp [tag, String.toList_append]
  rw [htag]
  refine .raw ?_
  cases f.required <;> simp [String.toList_append, hproperty]

/-- The brackets on the line of a field are nested: they are those of its type. -/
theorem Field.nested_row {f : Field} (hcamel : f.name = Naming.camel f.property)
    (hname : isIdentifier f.name = true)
    (htype : ∀ name ∈ f.type.name?, isIdentifier name = true) : Nested (marks f.row.toList) := by
  obtain ⟨ms, hms, hscans⟩ := GoType.exists_scans htype
  have hfront : Scans ("\t" ++ f.name ++ cellText).toList [] :=
    .of_quiet (by simp only [quiet_append, quiet_of_isIdentifier hname]; decide)
  have hcell : Scans cellText.toList [] := .of_quiet (by decide)
  have hrow := ((hfront.append hscans).append hcell).append (scans_tag (hcamel ▸ hname))
  have hmarks : marks f.row.toList = ms := by
    simpa [row, String.toList_append] using hrow.marks_eq
  exact hmarks ▸ hms

/-- There is no mark on the line of a constant. -/
theorem Constant.marks_row {typeName : String} {c : Constant}
    (htype : isIdentifier typeName = true) (hname : isIdentifier c.name = true) :
    marks (c.row typeName).toList = [] := by
  have hfront : Scans ("\t" ++ c.name ++ cellText ++ typeName ++ cellText ++ "= ").toList [] :=
    .of_quiet (by
      simp only [quiet_append, quiet_of_isIdentifier hname, quiet_of_isIdentifier htype]
      decide)
  rw [row, String.toList_append]
  exact (hfront.append (.quote c.value)).marks_eq

/-! ## Marks of files -/

/-- A declaration has brackets around its fields or constants, and pairs of them in its types. -/
theorem Declaration.WellNamed.nested_lines {v : Vocabulary} {d : Declaration} (h : d.WellNamed v)
    (htypes : ∀ field ∈ d.fields, ∀ name ∈ field.type.name?, isIdentifier name = true) :
    Nested (d.lines.flatMap fun l => marks l.toList) := by
  have hblank : marks "".toList = [] := marks_nil
  cases h with
  | @enumeration source constants hname hconstants =>
    have hcomment : marks ("// " ++ Naming.camel source ++ " enumerates values for " ++ source ++
        ".").toList = [] := by
      simp [String.toList_append, marks_comment]
    have htype : Scans ("type " ++ Naming.camel source ++ " string").toList [] :=
      .of_quiet (by simp only [quiet_append, quiet_of_isIdentifier hname]; decide)
    have hopening : marks "const (".toList = [.bracket '('] := by simp [marks, brackets]
    have hclosing : marks ")".toList = [.bracket ')'] := by simp [marks, brackets]
    have hrows : (constants.map (·.row (Naming.camel source))).flatMap (fun l => marks l.toList) =
        [] := by
      rw [List.flatMap_map, List.flatMap_eq_nil_iff]
      exact fun c hc => Constant.marks_row hname (hconstants c hc)
    have hpair : Nested [.bracket '(', .bracket ')'] := .pair rfl .nil
    rw [lines]
    -- An enumeration without values has no block of constants.
    split
    · simpa only [List.flatMap_append, List.flatMap_cons, List.flatMap_nil, hcomment,
        htype.marks_eq, hblank, List.append_nil] using Nested.nil
    · simpa only [List.flatMap_append, List.flatMap_cons, List.flatMap_nil, hcomment,
        htype.marks_eq, hblank, hopening, hclosing, hrows, List.append_nil, List.nil_append,
        List.singleton_append] using hpair
  | @struct name origin fields hname hfields =>
    have hcomment : marks ("// " ++ name ++ " is generated from the entity model " ++ origin.word ++
        ".").toList = [] := by
      simp [String.toList_append, marks_comment]
    have hopening : marks ("type " ++ name ++ " struct \x7b").toList = [.bracket '\x7b'] := by
      have hname : Scans ("type " ++ name ++ " struct ").toList [] :=
        .of_quiet (by simp only [quiet_append, quiet_of_isIdentifier hname]; decide)
      have hbracket : Scans ['\x7b'] [.bracket '\x7b'] := .bracket (by decide)
      simpa [String.toList_append] using (hname.append hbracket).marks_eq
    have hclosing : marks "\x7d".toList = [.bracket '\x7d'] := by simp [marks, brackets]
    have hrows : Nested ((fields.map (·.row)).flatMap fun l => marks l.toList) := by
      refine .flatMap (List.forall_mem_map.2 fun field hfield => ?_)
      obtain ⟨hcamel, hid, -⟩ := hfields field hfield
      exact Field.nested_row hcamel hid (htypes field hfield)
    have hpair : Nested (.bracket '\x7b' ::
        ((fields.map (·.row)).flatMap fun l => marks l.toList) ++ [.bracket '\x7d']) :=
      .pair rfl hrows
    simpa only [lines, List.flatMap_append, List.flatMap_cons, List.flatMap_nil, hcomment, hopening,
      hclosing, hblank, List.append_nil, List.nil_append, List.singleton_append,
      List.cons_append] using hpair

/-- The brackets of a file are in pairs. -/
theorem Passes.nested_lines {package generator : String} {s : Schema} {f : File}
    (ps : Passes package generator s f) : Nested (f.lines.flatMap fun l => marks l.toList) := by
  have hblank : marks "".toList = [] := marks_nil
  have hcomment :
      marks ("// Code generated by " ++ f.generator ++ ". DO NOT EDIT.").toList = [] := by
    simp [String.toList_append, marks_comment]
  have hpackage : Scans ("package " ++ f.package).toList [] := by
    have hname : Quiet f.package := ps.file_eq ▸ quiet_of_isIdentifier ps.isIdentifier_package
    exact .of_quiet (by simp only [quiet_append, hname]; decide)
  have himport : marks importLine.toList = [] := by
    have hfront : Scans "import ".toList [] := .of_quiet (by decide)
    exact (hfront.append (.quote "time")).marks_eq
  have hdeclarations : Nested ((f.declarations.flatMap (·.lines)).flatMap
      fun l => marks l.toList) := by
    rw [List.flatMap_assoc]
    refine .flatMap fun d hd => (ps.wellNamed d hd).nested_lines fun field hfield name hname => ?_
    exact (ps.namesType hd hfield name hname).2
  rw [File.lines]
  -- The path that is imported is a literal, so the import adds no marks.
  split
  · simpa only [List.flatMap_append, List.flatMap_cons, List.flatMap_nil, hcomment,
      hpackage.marks_eq, himport, hblank, List.append_nil, List.nil_append] using hdeclarations
  · simpa only [List.flatMap_append, List.flatMap_cons, List.flatMap_nil, hcomment,
      hpackage.marks_eq, hblank, List.append_nil, List.nil_append] using hdeclarations

/-- Every file can be laid out. -/
theorem exists_layout_eq_ok {package generator : String} {s : Schema} {f : File}
    (hgenerator : '\n' ∉ generator.toList) (h : file package generator s = .ok f) :
    ∃ source, layout f.text = .ok source := by
  obtain ⟨ps⟩ := file_eq_ok_iff.1 h
  have hlines : Text.lines f.text.toList = f.lines.map (·.toList) :=
    f.lines_text (ps.file_eq ▸ hgenerator) ps.unbroken_lines
  have hnested : Nested ((Text.lines f.text.toList).flatMap marks) := by
    rw [hlines, List.flatMap_map]
    exact ps.nested_lines
  exact ⟨_, Outcome.bind_eq_ok_iff.2 ⟨(), checkDelimiters_eq_ok hnested, rfl⟩⟩

/-- The laid out file is the source code. -/
theorem exists_generate_of_file {package generator : String} {s : Schema} {f : File}
    (hgenerator : '\n' ∉ generator.toList) (h : file package generator s = .ok f) :
    ∃ source, layout f.text = .ok source ∧ generate package generator s = .ok source := by
  obtain ⟨source, hsource⟩ := exists_layout_eq_ok hgenerator h
  exact ⟨source, hsource, generate_eq_ok_iff.2 ⟨f, h, hsource⟩⟩

/-! ## Names that cannot be declared -/

/-- The fault is a name that cannot be declared, or a value without a camel case. -/
def SourceError.IsName (cause : SourceError) : Prop :=
  ∃ name, cause = .notIdentifier name ∧ (isIdentifier name = false ∨ Naming.camel name = "")

/-- If the error is a fault of source code, this is a name. Only in an enumeration it may be a value
without a camel case. -/
def OnlyNames : GenerateError → Prop
  | .layout cause => ∃ name, cause = .notIdentifier name ∧ isIdentifier name = false
  | .enumeration _ cause => cause.IsName
  | _ => True

/-- A name in camel case is refused only if it is no identifier. -/
theorem ends_identifier (name : String) : Outcome.Ends (identifier name) (fun _ => True)
    fun cause => cause = .notIdentifier name ∧ isIdentifier name = false := by
  unfold identifier
  split
  · trivial
  next hname => exact ⟨rfl, Bool.eq_false_iff.2 hname⟩

/-- A name that is declared as it stands is refused only for being none. -/
theorem onlyNames_declarable (name : String) :
    Outcome.Ends (declarable name) (fun _ => True) OnlyNames := by
  unfold declarable
  split
  · trivial
  next cause hcause => exact ⟨name, (ends_identifier name).of_eq_error hcause⟩

/-! ### Enumerations -/

/-- A name in camel case is refused only for being none. -/
theorem isName_identifier (name : String) :
    Outcome.Ends (identifier name) (fun _ => True) SourceError.IsName :=
  (ends_identifier name).imp (fun _ h => h) fun _ h => ⟨name, h.1, .inl h.2⟩

/-- A constant is refused only for its name. -/
theorem isName_constant (typeName value : String) :
    Outcome.Ends (constant typeName value) (fun _ => True) SourceError.IsName := by
  dsimp only [constant]
  split
  next hempty => exact ⟨value, rfl, .inr (String.isEmpty_iff.1 hempty)⟩
  · exact (isName_identifier _).bind fun _ _ => trivial

/-- An enumeration is refused only for its names. -/
theorem isName_enumeration (name : String) (e : Enumeration) :
    Outcome.Ends (enumeration name e) (fun _ => True) SourceError.IsName := by
  refine (isName_identifier _).bind fun typeName _ => ?_
  have hconstants : Outcome.Ends (e.values.mapM (constant typeName)) (fun _ => True)
      SourceError.IsName := .mapM_of_forall fun value _ => isName_constant typeName value
  exact hconstants.bind fun _ _ => trivial

/-- The first pass reports no fault of source code but a name. -/
theorem onlyNames_enumerations (enums : List (String × Enumeration)) :
    Outcome.Ends (enumerations enums) (fun _ => True) OnlyNames := by
  refine .mapM_of_forall fun x _ => ?_
  dsimp only
  split
  · trivial
  next cause hcause => exact (isName_enumeration x.1 x.2).of_eq_error hcause

/-! ### Structs -/

section

variable (v : Vocabulary)

/-- The error of a type is no fault of source code, so that one is the name of a field. -/
theorem onlyNames_fields (isRequired : String → Bool)
    (wrap : String → TypeError → GenerateError) (properties : List (String × Property))
    (hwrap : ∀ name x, OnlyNames (wrap name x)) :
    Outcome.Ends (fields v isRequired wrap properties) (fun _ => True) OnlyNames := by
  have htyped : Outcome.Ends (properties.mapM fun e => typedProperty v isRequired wrap e.1 e.2)
      (fun _ => True) OnlyNames := by
    refine .mapM_of_forall fun e _ => ?_
    unfold typedProperty
    split
    · trivial
    · exact hwrap e.1 _
  refine htyped.bind fun typed _ => .mapM_of_forall fun t _ => ?_
  exact (onlyNames_declarable _).bind fun _ _ => trivial

/-- The struct of a definition has no fault of source code but a name. -/
theorem onlyNames_definitionStruct (name : String) (p : Property) :
    Outcome.Ends (definitionStruct v name p) (fun _ => True) OnlyNames :=
  (onlyNames_declarable _).bind fun _ _ =>
    (onlyNames_fields v _ (.definitionProperty name) _ fun _ _ => trivial).bind fun _ _ => trivial

/-- The struct of an entity has no fault of source code but a name. -/
theorem onlyNames_entityStruct (name : String) (e : Entity) :
    Outcome.Ends (entityStruct v name e) (fun _ => True) OnlyNames :=
  (onlyNames_declarable _).bind fun _ _ =>
    (onlyNames_fields v _ (.property name) _ fun _ _ => trivial).bind fun _ _ => trivial

end

/-- A file that is not made has no fault of source code but a name. -/
theorem onlyNames_file (package generator : String) (s : Schema) :
    Outcome.Ends (file package generator s) (fun _ => True) OnlyNames := by
  have hdefinitions : Outcome.Ends (definitionStructs s.vocabulary s.definitions.entries)
      (fun _ => True) OnlyNames :=
    .mapM_of_forall fun d _ => onlyNames_definitionStruct s.vocabulary d.1 d.2
  have hentities : Outcome.Ends
      (s.entities.entries.mapM fun e => entityStruct s.vocabulary e.1 e.2)
      (fun _ => True) OnlyNames :=
    .mapM_of_forall fun e _ => onlyNames_entityStruct s.vocabulary e.1 e.2
  refine (onlyNames_declarable package).bind fun _ _ =>
    (onlyNames_enumerations _).bind fun _ _ => ?_
  exact hdefinitions.bind fun _ _ => hentities.bind fun _ _ => trivial

/-- **Every file that is made can be laid out, whatever the name of the tool, and source code is
refused for a name that cannot be declared and for nothing else.** -/
theorem generate_refuses_names {package generator : String} (s : Schema)
    (hgenerator : '\n' ∉ generator.toList) :
    (∀ f, file package generator s = .ok f →
      ∃ source, layout f.text = .ok source ∧ generate package generator s = .ok source) ∧
    ∀ e, generate package generator s = .error e →
      (∀ cause, e = .layout cause →
        ∃ name, cause = .notIdentifier name ∧ isIdentifier name = false) ∧
      ∀ enum cause, e = .enumeration enum cause → ∃ name, cause = .notIdentifier name ∧
        (isIdentifier name = false ∨ Naming.camel name = "") := by
  refine ⟨fun f => exists_generate_of_file hgenerator, fun e he => ?_⟩
  have hnames : OnlyNames e := by
    rcases Outcome.bind_eq_error_iff.1 he with hfile | ⟨f, hf, hlayout⟩
    · exact (onlyNames_file package generator s).of_eq_error hfile
    · obtain ⟨source, hsource⟩ := exists_layout_eq_ok hgenerator hf
      rw [hsource] at hlayout
      cases hlayout
  exact ⟨fun cause heq => by rwa [heq] at hnames, fun enum cause heq => by rwa [heq] at hnames⟩

/-- The name of the tool may have a bracket and quotes that are not closed, but the one of the
package may not. -/
theorem generate_refuses_names_visits : '\n' ∉ "a (\"\x60".toList ∧
    (∃ source, generate "models" "a (\"\x60" visits = .ok source) ∧
    ∃ cause, generate "models(" "a (\"\x60" visits = .error (.layout cause) ∧
      ∃ name, cause = .notIdentifier name ∧ isIdentifier name = false := by
  have hgenerator : '\n' ∉ "a (\"\x60".toList := by decide
  refine ⟨hgenerator, ?_, ?_⟩
  · obtain ⟨ps⟩ := file_eq_ok_iff.1 file_visits
    have hfile : file "models" "a (\"\x60" visits =
        .ok ⟨"models", "a (\"\x60", ps.enums ++ ps.definitions ++ ps.entities⟩ :=
      file_eq_ok_iff.2 ⟨⟨ps.enums, ps.definitions, ps.entities, ps.isIdentifier_package,
        ps.enums_eq, ps.definitions_eq, ps.entities_eq, rfl⟩⟩
    obtain ⟨source, -, hsource⟩ := (generate_refuses_names visits hgenerator).1 _ hfile
    exact ⟨source, hsource⟩
  · have hname : isIdentifier "models(" = false := by decide +kernel
    have herror : generate "models(" "a (\"\x60" visits =
        .error (.layout (.notIdentifier "models(")) := by
      simp only [generate, file, declarable, identifier, hname]
      rfl
    exact ⟨_, herror, ((generate_refuses_names visits hgenerator).2 _ herror).1 _ rfl⟩

end EntityModel.Go
