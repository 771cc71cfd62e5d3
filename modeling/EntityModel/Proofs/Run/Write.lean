import EntityModel.Proofs.Files.Disk
import EntityModel.Proofs.Go.LaidOut
import EntityModel.Run.Basic

/-! # Writing artifacts

A run makes all artifacts before it touches a file (`onDisk_run`). Then it writes them one after the
other, so when an artifact cannot be written, those in front of it have been
(`files_of_failed_run`). -/

namespace EntityModel

open Disk (place)

/-! ## Programs on disks -/

/-- What a program does on a disk: its outcome, and the disk that it leaves. -/
def onDisk {α : Type} (program : ExceptT RunError DiskM α) (d : Disk) :
    Except RunError α × Disk :=
  program.run.run d

section

variable {α β : Type} {program : ExceptT RunError DiskM α} {next : α → ExceptT RunError DiskM β}
  {d d' d'' : Disk} {e : RunError}

/-- Of two steps on a disk the second one starts where the first one ends well. -/
theorem onDisk_bind (program : ExceptT RunError DiskM α) (next : α → ExceptT RunError DiskM β)
    (d : Disk) : onDisk (program >>= next) d =
      match onDisk program d with
      | (.ok a, d') => onDisk (next a) d'
      | (.error e, d') => (.error e, d') := by
  unfold onDisk
  rw [ExceptT.run_bind, StateT.run_bind]
  cases program.run.run d with
  | mk outcome d' => cases outcome <;> rfl

/-- Two steps on a disk end well if the first one does, and then the second one. -/
theorem onDisk_bind_eq_ok_iff {b : β} : onDisk (program >>= next) d = (.ok b, d'') ↔
    ∃ a d', onDisk program d = (.ok a, d') ∧ onDisk (next a) d' = (.ok b, d'') := by
  rw [onDisk_bind]
  rcases onDisk program d with ⟨_ | a, d'⟩ <;> simp

/-- Two steps on a disk fail if the first one does, or the second one after it. -/
theorem onDisk_bind_eq_error_iff : onDisk (program >>= next) d = (.error e, d'') ↔
    onDisk program d = (.error e, d'') ∨
      ∃ a d', onDisk program d = (.ok a, d') ∧ onDisk (next a) d' = (.error e, d'') := by
  rw [onDisk_bind]
  rcases onDisk program d with ⟨_ | a, d'⟩ <;> simp

/-- A failure leaves the disk as it is. -/
@[simp] theorem onDisk_throw (e : RunError) (d : Disk) :
    onDisk (throw e : ExceptT RunError DiskM α) d = (.error e, d) := rfl

/-- An operation on files ends well whatever its result is. -/
@[simp] theorem onDisk_liftM (operation : DiskM α) (d : Disk) :
    onDisk (liftM operation : ExceptT RunError DiskM α) d =
      (.ok (operation.run d).1, (operation.run d).2) := rfl

/-- An outcome leaves the disk as it is. -/
@[simp] theorem onDisk_liftExcept (outcome : Except RunError α) (d : Disk) :
    onDisk (liftM outcome : ExceptT RunError DiskM α) d = (outcome, d) := by
  cases outcome <;> rfl

/-- An operation that fails makes the run fail with the error it is given. -/
theorem onDisk_orFail (error : FileError → RunError) (operation : DiskM (FileResult α)) (d : Disk) :
    onDisk (Run.orFail error operation) d =
      ((operation.run d).1.mapError error, (operation.run d).2) := by
  unfold Run.orFail
  rw [onDisk_bind, onDisk_liftM]
  cases (operation.run d).1 <;> rfl

end

/-! ## Loading -/

namespace Run

/-- The schema in what was read. -/
def schemaOf (path : String) (content : FileResult ByteArray) : Except RunError Schema := do
  let text ← (content.bind textOf).mapError (.readSchema path)
  let schema ← (Schema.parse text).mapError (.parseSchema path)
  schema.validateStates.mapError (.states path)
  return schema

/-- The text of a content that is one. -/
theorem textOf_toUTF8 (text : String) : textOf text.toUTF8 = .ok text := by
  have htext : String.fromUTF8? text.toUTF8 = some text := dif_pos text.isValidUTF8
  rw [textOf, htext]

/-- A file is read as a text, which leaves the disk as it is. -/
theorem run_readText (path : String) (d : Disk) :
    (readText path : DiskM _).run d = ((d.read path).bind textOf, d) := rfl

/-- Loading a schema looks at nothing but its file. -/
theorem onDisk_loadSchema (path : String) (d : Disk) :
    onDisk (loadSchema path) d = (schemaOf path (d.read path), d) := by
  unfold loadSchema schemaOf
  rw [onDisk_bind, onDisk_orFail, run_readText]
  cases (d.read path).bind textOf with
  | error cause => rfl
  | ok text =>
    cases hparse : Schema.parse text with
    | error cause => simp [Except.mapError, hparse, bind, Except.bind]
    | ok schema =>
      cases hstates : schema.validateStates with
      | error cause => simp [Except.mapError, hparse, hstates, bind, Except.bind]
      | ok =>
        simp only [Except.mapError, hparse, hstates, bind, Except.bind]
        rfl

end Run

/-- An artifact has the path of its output and the text that is made for its kind. -/
theorem Settings.artifact_eq_ok_iff {s : Settings} {schema : Schema} {k : ArtifactKind × String}
    {a : Artifact} :
    (match k.1.generate s.artifactOptions schema with
      | .ok text => Except.ok (Artifact.mk k.2 text)
      | .error e => .error (RunError.generate k.1 e)) = .ok a ↔
    a.path = k.2 ∧ k.1.generate s.artifactOptions schema = .ok a.text := by
  cases k.1.generate s.artifactOptions schema with
  | error e => simp
  | ok text =>
    obtain ⟨path, text'⟩ := a
    simp [eq_comm]

/-- Every kind of artifact that has a path is made. -/
theorem Settings.artifacts_eq_ok_iff {s : Settings} {schema : Schema} {as : List Artifact} :
    s.artifacts schema = .ok as ↔ List.Forall₂ (fun k a => a.path = k.2 ∧
      k.1.generate s.artifactOptions schema = .ok a.text) s.outputs.kinds as := by
  rw [artifacts, Outcome.mapM_eq_ok_iff]
  exact ⟨fun h => h.imp fun _ _ => artifact_eq_ok_iff.1,
    fun h => h.imp fun _ _ => artifact_eq_ok_iff.2⟩

/-- The artifacts that a run makes. -/
def Settings.made (s : Settings) (d : Disk) : Except RunError (List Artifact) := do
  let schema ← Run.schemaOf s.schema (d.read s.schema)
  s.artifacts schema

/-- A run makes all artifacts before it touches a file. -/
theorem onDisk_run (s : Settings) (checkOnly : Bool) (d : Disk) : onDisk (run s checkOnly) d =
    match s.made d with
    | .ok artifacts => onDisk (if checkOnly then Run.check artifacts else Run.write artifacts) d
    | .error e => (.error e, d) := by
  unfold run Settings.made
  rw [onDisk_bind, Run.onDisk_loadSchema]
  cases Run.schemaOf s.schema (d.read s.schema) with
  | error e => rfl
  | ok schema =>
    dsimp only
    rw [onDisk_bind, onDisk_liftExcept]
    cases hmade : s.artifacts schema with
    | error e => simp [hmade, bind, Except.bind]
    | ok artifacts =>
      cases checkOnly <;> simp [hmade, bind, Except.bind]

section

variable {s : Settings} {d d' : Disk} {e : RunError}

/-- A run succeeds if its artifacts can be made and written. -/
theorem onDisk_run_eq_ok_iff : onDisk (run s false) d = (.ok (), d') ↔
    ∃ as, s.made d = .ok as ∧ onDisk (Run.write as) d = (.ok (), d') := by
  rw [onDisk_run]
  cases s.made d <;> simp

/-- A run fails if its artifacts cannot be made, or not all of them can be written. -/
theorem onDisk_run_eq_error_iff : onDisk (run s false) d = (.error e, d') ↔
    s.made d = .error e ∧ d' = d ∨
      ∃ as, s.made d = .ok as ∧ onDisk (Run.write as) d = (.error e, d') := by
  rw [onDisk_run]
  cases s.made d <;> simp [eq_comm]

end

/-! ## Writing one artifact -/

namespace Run

variable {a : Artifact} {as : List Artifact} {d d' : Disk} {e : RunError}

/-- The error is about writing the artifact or making its directory. -/
inductive FailsOn (a : Artifact) : RunError → Prop
  /-- The directory cannot be made. -/
  | makeDirectory {parent : String} (h : Path.parent? a.path = some parent) (cause : FileError) :
    FailsOn a (.makeDirectory parent cause)
  /-- The file cannot be written. -/
  | write (cause : FileError) : FailsOn a (.writeArtifact a.path cause)

/-- An error of writing names the path of the artifact. -/
theorem FailsOn.path_eq {path : String} {cause : FileError}
    (h : FailsOn a (.writeArtifact path cause)) : a.path = path := by
  cases h
  rfl

/-- Writing a file changes the disk if it does not fail. -/
theorem run_write (path : String) (content : ByteArray) (d : Disk) :
    (MonadFiles.write path content : DiskM _).run d =
      match d.write path content with
      | .ok d' => (.ok (), d')
      | .error cause => (.error cause, d) := by
  change StateT.run (match d.write path content with
    | .ok d' => (do set d'; return .ok () : DiskM (FileResult Unit))
    | .error cause => return .error cause) d = _
  cases d.write path content <;> rfl

/-- Writing the file of an artifact whose directory is there. -/
theorem onDisk_writeFile (a : Artifact) (d : Disk) :
    onDisk (orFail (.writeArtifact a.path) (MonadFiles.write a.path a.text.toUTF8)) d =
      match d.write a.path a.text.toUTF8 with
      | .ok d' => (.ok (), d')
      | .error cause => (.error (.writeArtifact a.path cause), d) := by
  rw [onDisk_orFail, run_write]
  cases d.write a.path a.text.toUTF8 <;> rfl

/-- A name alone needs no directory. -/
theorem onDisk_writeArtifact_of_name (a : Artifact) (d : Disk)
    (h : Path.parent? a.path = some "") :
    onDisk (writeArtifact a) d =
      match d.write a.path a.text.toUTF8 with
      | .ok d' => (.ok (), d')
      | .error cause => (.error (.writeArtifact a.path cause), d) := by
  unfold writeArtifact
  rw [h]
  exact onDisk_writeFile a d

/-- An artifact is written to the disk that its directories are made on. -/
theorem onDisk_writeArtifact (a : Artifact) (d : Disk) : ∃ d₁, d.Grows d₁ ∧
    ((∃ e, FailsOn a e ∧ onDisk (writeArtifact a) d = (.error e, d₁)) ∨
      ∃ d₂, d₁.write a.path a.text.toUTF8 = .ok d₂ ∧
        onDisk (writeArtifact a) d = (.ok (), d₂)) := by
  -- What happens once the directories are there.
  have hfile : ∀ d₁ : Disk, (∃ e, FailsOn a e ∧
      onDisk (orFail (.writeArtifact a.path) (MonadFiles.write a.path a.text.toUTF8)) d₁ =
        (.error e, d₁)) ∨ ∃ d₂, d₁.write a.path a.text.toUTF8 = .ok d₂ ∧
      onDisk (orFail (.writeArtifact a.path) (MonadFiles.write a.path a.text.toUTF8)) d₁ =
        (.ok (), d₂) := by
    intro d₁
    rw [onDisk_writeFile]
    cases d₁.write a.path a.text.toUTF8 with
    | error cause => exact .inl ⟨_, .write cause, rfl⟩
    | ok d₂ => exact .inr ⟨d₂, rfl, rfl⟩
  unfold writeArtifact
  cases hparent : Path.parent? a.path with
  | none => exact ⟨d, .refl d, hfile d⟩
  | some parent =>
    dsimp only
    split
    · have hdirectory :
          onDisk (orFail (.makeDirectory parent) (MonadFiles.makeDirectory parent)) d =
            ((d.makeDirectory parent).1.mapError (.makeDirectory parent),
              (d.makeDirectory parent).2) := onDisk_orFail _ _ _
      refine ⟨(d.makeDirectory parent).2, Disk.grows_makeDirectory d parent, ?_⟩
      rw [onDisk_bind, hdirectory]
      cases (d.makeDirectory parent).1 with
      | error cause => exact .inl ⟨_, .makeDirectory hparent cause, rfl⟩
      | ok => exact hfile _
    · exact ⟨d, .refl d, hfile d⟩

/-- An artifact that cannot be written changes no file. -/
theorem writeArtifact_eq_error (h : onDisk (writeArtifact a) d = (.error e, d')) :
    FailsOn a e ∧ ∀ location, d'.fileAt? location = d.fileAt? location := by
  obtain ⟨d₁, hgrows, ⟨e', hfails, heq⟩ | ⟨d₂, -, heq⟩⟩ := onDisk_writeArtifact a d
  · obtain ⟨he, rfl⟩ := Prod.mk.inj (h.symm.trans heq)
    obtain rfl := Except.error.inj he
    exact ⟨hfails, hgrows.fileAt?_eq⟩
  · cases h.symm.trans heq

/-- An artifact that is written is at its place, and no other file is changed. -/
theorem writeArtifact_eq_ok (h : onDisk (writeArtifact a) d = (.ok (), d')) :
    d.KeepsDirectories d' ∧ d'.locate a.path = .ok (place a.path) ∧
      ∀ location, d'.fileAt? location =
        (if place a.path = location then some a.text.toUTF8 else none).or (d.fileAt? location) := by
  obtain ⟨d₁, hgrows, ⟨e', hfails, heq⟩ | ⟨d₂, hwrite, heq⟩⟩ := onDisk_writeArtifact a d
  · cases h.symm.trans heq
  · obtain ⟨-, rfl⟩ := Prod.mk.inj (h.symm.trans heq)
    obtain ⟨hlocate, hkeeps, hfiles⟩ := Disk.files_of_write_eq_ok hwrite
    refine ⟨hgrows.keepsDirectories.trans hkeeps, Disk.locate_mono hkeeps hlocate,
      fun location => ?_⟩
    rw [hfiles, ← hgrows.fileAt?_eq]
    by_cases hplace : place a.path = location
    · simp [hplace]
    · simp [hplace, Ne.symm hplace]

/-! ## Writing all artifacts -/

/-- The content that is left at a location: the text of the last artifact for it, if there is
one. -/
def left? (as : List Artifact) (location : List String) : Option ByteArray :=
  (as.reverse.find? fun a => place a.path = location).map (·.text.toUTF8)

/-- The last artifact at a place is the one that is left there. -/
theorem left?_cons (a : Artifact) (as : List Artifact) (location : List String) :
    left? (a :: as) location =
      (left? as location).or (if place a.path = location then some a.text.toUTF8 else none) := by
  unfold left?
  rw [List.reverse_cons, List.find?_append]
  cases as.reverse.find? fun a => place a.path = location with
  | some b => rfl
  | none =>
    by_cases h : place a.path = location <;> simp [h]

/-- Something is left at the place of every artifact. -/
theorem exists_left?_of_mem (h : a ∈ as) : ∃ content, left? as (place a.path) = some content := by
  have hsome : (as.reverse.find? fun b => place b.path = place a.path).isSome = true :=
    List.find?_isSome.2 ⟨a, List.mem_reverse.2 h, by simp⟩
  obtain ⟨b, hb⟩ := Option.isSome_iff_exists.1 hsome
  exact ⟨_, congrArg (Option.map _) hb⟩

/-- Artifacts are written one after another. -/
theorem write_cons (a : Artifact) (as : List Artifact) :
    (write (a :: as) : ExceptT RunError DiskM Unit) =
      (writeArtifact a >>= fun _ => write as) := rfl

/-- The second artifact is written on the disk that the first one leaves. -/
theorem onDisk_write_pair {b : Artifact} (h : onDisk (writeArtifact a) d = (.ok (), d')) :
    onDisk (write [a, b]) d = onDisk (writeArtifact b) d' := by
  rw [write_cons, onDisk_bind, h]
  exact congrArg (onDisk · d') (bind_pure (writeArtifact b))

/-- What is written is left at its place, and every other file as it was. -/
theorem write_eq_ok (h : onDisk (write as) d = (.ok (), d')) :
    d.KeepsDirectories d' ∧ (∀ a ∈ as, d'.locate a.path = .ok (place a.path)) ∧
      ∀ location, d'.fileAt? location = (left? as location).or (d.fileAt? location) := by
  induction as generalizing d with
  | nil =>
    obtain ⟨-, rfl⟩ := Prod.mk.inj h
    exact ⟨fun _ h => h, fun a ha => absurd ha List.not_mem_nil, fun _ => rfl⟩
  | cons a as ih =>
    rw [write_cons, onDisk_bind_eq_ok_iff] at h
    obtain ⟨_, d₂, hwrite, hrest⟩ := h
    obtain ⟨hkeeps₂, hlocate, hfiles₂⟩ := writeArtifact_eq_ok hwrite
    obtain ⟨hkeeps, hlocates, hfiles⟩ := ih hrest
    -- What the others leave hides what the first one leaves.
    refine ⟨hkeeps₂.trans hkeeps,
      List.forall_mem_cons.2 ⟨Disk.locate_mono hkeeps hlocate, hlocates⟩, fun location => ?_⟩
    rw [hfiles, hfiles₂, left?_cons, Option.or_assoc]

/-- If an artifact cannot be written, those in front of it are left at their places. -/
theorem write_eq_error (h : onDisk (write as) d = (.error e, d')) :
    ∃ before a after, as = before ++ a :: after ∧ FailsOn a e ∧
      ∀ location, d'.fileAt? location = (left? before location).or (d.fileAt? location) := by
  induction as generalizing d with
  | nil => cases h
  | cons a as ih =>
    rw [write_cons, onDisk_bind_eq_error_iff] at h
    rcases h with hwrite | ⟨_, d₂, hwrite, hrest⟩
    · obtain ⟨hfails, hfiles⟩ := writeArtifact_eq_error hwrite
      exact ⟨[], a, as, rfl, hfails, hfiles⟩
    · obtain ⟨-, -, hfiles₂⟩ := writeArtifact_eq_ok hwrite
      obtain ⟨before, b, after, rfl, hfails, hfiles⟩ := ih hrest
      refine ⟨a :: before, b, after, rfl, hfails, fun location => ?_⟩
      rw [hfiles, hfiles₂, left?_cons, Option.or_assoc]

end Run

/-! ## Failed runs -/

open Run (left? FailsOn)

/-- **A run that fails has not touched the disk, or it fails on writing an artifact.** Then those in
front of it are left at their places, and every other file as it was; so no file is changed exactly
if what is left was there before. A write does not fail midway, so no part of the artifact is left
on which the run fails, and disks have no links, so every file is at one place only. -/
theorem files_of_failed_run {s : Settings} {d d' : Disk} {e : RunError}
    (h : onDisk (run s false) d = (.error e, d')) :
    s.made d = .error e ∧ d' = d ∨
      ∃ before a after, s.made d = .ok (before ++ a :: after) ∧ FailsOn a e ∧
        (∀ location, d'.fileAt? location = (left? before location).or (d.fileAt? location)) ∧
        ((∀ location, d'.fileAt? location = d.fileAt? location) ↔
          ∀ location content, left? before location = some content →
            d.fileAt? location = some content) := by
  refine (onDisk_run_eq_error_iff.1 h).imp id fun ⟨as, hmade, hwrite⟩ => ?_
  obtain ⟨before, a, after, rfl, hfails, hfiles⟩ := Run.write_eq_error hwrite
  refine ⟨before, a, after, hmade, hfails, hfiles, ?_⟩
  simp only [hfiles]
  refine forall_congr' fun location => ?_
  cases left? before location with
  | none => simp
  | some content => simp [eq_comm]

namespace Run

/-- Settings for a Go file and an OpenAPI document. -/
def twoOutputs (go openapi : String) : Settings where
  schema := "s.json"
  outputs := ⟨some go, some openapi, none, none⟩
  package := "models"
  title := "Things"

/-- An empty schema is enough for both. -/
theorem exists_made_twoOutputs {d : Disk} (hread : d.read "s.json" = .ok "\x7b\x7d".toUTF8)
    (go openapi : String) : ∃ source document,
      (twoOutputs go openapi).made d = .ok [⟨go, source⟩, ⟨openapi, document⟩] := by
  have hschema : schemaOf "s.json" (.ok "\x7b\x7d".toUTF8) = .ok Schema.record.blank := by
    rw [schemaOf, Except.bind, textOf_toUTF8]
    rfl
  have hfile : Go.file "models" "entitygen" Schema.record.blank =
      .ok ⟨"models", "entitygen", []⟩ := by decide
  obtain ⟨source, -, hsource⟩ := Go.exists_generate_of_file (by decide) hfile
  obtain ⟨document, hdocument⟩ : ∃ document, OpenApi.generate "Things"
      ⟨"entitygen", some "s.json"⟩ Schema.record.blank = .ok document := ⟨_, rfl⟩
  have hmade : (twoOutputs go openapi).artifacts Schema.record.blank =
      .ok [⟨go, source⟩, ⟨openapi, document⟩] :=
    Settings.artifacts_eq_ok_iff.2 (.cons ⟨rfl, hsource⟩ (.cons ⟨rfl, hdocument⟩ .nil))
  exact ⟨source, document,
    Outcome.bind_eq_ok_iff.2 ⟨_, (congrArg _ hread).trans hschema, hmade⟩⟩

/-- A disk with a directory `dir` and an empty schema. -/
def cluttered : Disk :=
  .directory [("work", .directory [("dir", .empty), ("s.json", .file "\x7b\x7d".toUTF8)])]

/-- The disk with a Go file on it. -/
def clutteredAfter (source : String) : Disk :=
  .directory [("work", .directory [("a.go", .file source.toUTF8), ("dir", .empty),
    ("s.json", .file "\x7b\x7d".toUTF8)])]

/-- A run fails on a directory in the place of an artifact, and leaves the artifact before it. -/
theorem onDisk_cluttered : ∃ source, onDisk (run (twoOutputs "a.go" "dir") false) cluttered =
    (.error (.writeArtifact "dir" .isADirectory), clutteredAfter source) := by
  obtain ⟨source, document, hmade⟩ :=
    exists_made_twoOutputs (show cluttered.read "s.json" = _ from rfl) "a.go" "dir"
  refine ⟨source, ?_⟩
  have hnames : Path.parent? "a.go" = some "" ∧ Path.parent? "dir" = some "" := by decide
  have hgo : onDisk (writeArtifact ⟨"a.go", source⟩) cluttered =
      (.ok (), clutteredAfter source) := by
    have hwrite : cluttered.write "a.go" source.toUTF8 = .ok (clutteredAfter source) := rfl
    rw [onDisk_writeArtifact_of_name _ _ hnames.1, hwrite]
  have hdocument : onDisk (writeArtifact ⟨"dir", document⟩) (clutteredAfter source) =
      (.error (.writeArtifact "dir" .isADirectory), clutteredAfter source) := by
    have hwrite : (clutteredAfter source).write "dir" document.toUTF8 = .error .isADirectory := rfl
    rw [onDisk_writeArtifact_of_name _ _ hnames.2, hwrite]
  refine onDisk_run_eq_error_iff.2 (.inr ⟨_, hmade, ?_⟩)
  rw [onDisk_write_pair hgo, hdocument]

/-- The Go file is there although the run fails: the OpenAPI document cannot be written. -/
theorem files_of_failed_run_cluttered : ∃ source,
    onDisk (run (twoOutputs "a.go" "dir") false) cluttered =
      (.error (.writeArtifact "dir" .isADirectory), clutteredAfter source) ∧
    ¬∀ location, (clutteredAfter source).fileAt? location = cluttered.fileAt? location := by
  obtain ⟨source, h⟩ := onDisk_cluttered
  obtain ⟨source', document, hmade'⟩ :=
    exists_made_twoOutputs (show cluttered.read "s.json" = _ from rfl) "a.go" "dir"
  refine ⟨source, h, ?_⟩
  rcases files_of_failed_run h with ⟨hmade, -⟩ | ⟨before, a, after, hmade, hfails, -, hiff⟩
  · cases hmade.symm.trans hmade'
  · have hall := Except.ok.inj (hmade.symm.trans hmade')
    -- The run fails on the other artifact, so the Go file is in front of it.
    have hmem : ⟨"a.go", source'⟩ ∈ before := by
      cases before with
      | nil =>
        have hpath : "dir" = "a.go" := hfails.path_eq.symm.trans
          (congrArg Artifact.path (List.cons.inj hall).1)
        exact absurd hpath (by decide)
      | cons b before => exact (List.cons.inj hall).1 ▸ List.mem_cons_self
    obtain ⟨content, hcontent⟩ := exists_left?_of_mem hmem
    have hnone : cluttered.fileAt? (place "a.go") = none := rfl
    intro hsame
    cases hnone.symm.trans (hiff.1 hsame _ _ hcontent)

end Run

end EntityModel
