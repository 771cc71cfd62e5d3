import EntityModel.Proofs.Artifacts
import EntityModel.Proofs.Run.Write

/-! # Checking artifacts

A run that only checks leaves the disk as it is (`onDisk_run_check`) and passes if every file holds
the text of its artifact (`run_check_eq_ok_iff`). What was written passes as long as nothing was
written over it: not the schema, and no artifact (`check_after_run`). -/

namespace EntityModel

open Disk (place)

namespace Run

variable {a : Artifact} {as : List Artifact} {d : Disk} {content : ByteArray}

/-! ## Checking -/

/-- How the file of an artifact on a disk differs from it, or why it cannot be read. -/
def driftOn (d : Disk) (a : Artifact) : Except RunError (Option Drift) :=
  match d.read a.path with
  | .ok content =>
    .ok (if String.fromUTF8? content = some a.text then none else some (.differs a.path))
  | .error .notFound => .ok (some (.missing a.path))
  | .error e => .error (.readArtifact a.path e)

/-- What checking artifacts on a disk comes to. -/
def checkOn (d : Disk) (as : List Artifact) : Except RunError Unit := do
  let drifts ← as.filterMapM (driftOn d)
  if drifts ≠ [] then .error (.stale drifts) else .ok ()

/-- Bytes are read as a text exactly if they are its encoding. -/
theorem fromUTF8?_eq_some_iff {text : String} :
    String.fromUTF8? content = some text ↔ content = text.toUTF8 := by
  constructor
  · intro h
    unfold String.fromUTF8? at h
    split at h
    · rw [← Option.some.inj h]
      rfl
    · cases h
  · rintro rfl
    exact dif_pos text.isValidUTF8

/-- An artifact has not drifted exactly if its file has its text. -/
theorem driftOn_eq_ok_none_iff : driftOn d a = .ok none ↔ d.read a.path = .ok a.text.toUTF8 := by
  unfold driftOn
  split
  · rename_i content hread
    rw [hread, Except.ok.injEq, Except.ok.injEq, ← fromUTF8?_eq_some_iff]
    simp
  · rename_i hread
    simp [hread]
  · rename_i hread
    simp [hread]

/-- A check passes exactly if the file of every artifact has its text. -/
theorem checkOn_eq_ok_iff :
    checkOn d as = .ok () ↔ ∀ a ∈ as, d.read a.path = .ok a.text.toUTF8 := by
  simp only [← driftOn_eq_ok_none_iff, ← Outcome.filterMapM_eq_ok_nil_iff]
  rw [checkOn, Outcome.bind_eq_ok_iff]
  constructor
  · rintro ⟨drifts, hdrifts, hnone⟩
    cases drifts with
    | nil => exact hdrifts
    | cons => cases hnone
  · exact fun h => ⟨[], h, rfl⟩

/-- To look for drift leaves the disk as it is. -/
theorem onDisk_drift? (a : Artifact) (d : Disk) : onDisk (drift? a) d = (driftOn d a, d) := by
  have hread : onDisk (liftM (MonadFiles.read a.path : DiskM (FileResult ByteArray))) d =
    (.ok (d.read a.path), d) := rfl
  unfold drift? driftOn
  rw [onDisk_bind, hread]
  cases d.read a.path with
  | ok content => rfl
  | error e => cases e <;> rfl

/-- To look for drift in all artifacts leaves the disk as it is. -/
theorem onDisk_filterMapM_drift? (as : List Artifact) (d : Disk) :
    onDisk (as.filterMapM drift?) d = (as.filterMapM (driftOn d), d) := by
  induction as with
  | nil => rfl
  | cons a as ih =>
    rw [List.filterMapM_cons, List.filterMapM_cons, onDisk_bind, onDisk_drift?]
    cases driftOn d a with
    -- A file that cannot be read ends the check, whatever was found before.
    | error e => rfl
    | ok drift =>
      cases drift with
      | none => exact ih
      | some drift =>
        dsimp only
        rw [onDisk_bind, ih]
        cases as.filterMapM (driftOn d) <;> rfl

/-- Checking looks at the disk and leaves it as it is. -/
theorem onDisk_check (as : List Artifact) (d : Disk) : onDisk (check as) d = (checkOn d as, d) := by
  unfold check checkOn
  rw [onDisk_bind, onDisk_filterMapM_drift?]
  cases as.filterMapM (driftOn d) with
  | error e => rfl
  | ok drifts => cases drifts <;> rfl

end Run

/-- A run that only checks leaves the disk as it is. -/
theorem onDisk_run_check (s : Settings) (d : Disk) :
    onDisk (run s true) d = (s.made d >>= Run.checkOn d, d) := by
  rw [onDisk_run]
  cases s.made d with
  | error e => rfl
  | ok as => exact Run.onDisk_check as d

/-- A check passes if the artifacts can be made and every file holds the text of its artifact. -/
theorem run_check_eq_ok_iff {s : Settings} {d : Disk} :
    onDisk (run s true) d = (.ok (), d) ↔
      ∃ as, s.made d = .ok as ∧ ∀ a ∈ as, d.read a.path = .ok a.text.toUTF8 := by
  rw [onDisk_run_check, Prod.mk.injEq, and_iff_left rfl, Outcome.bind_eq_ok_iff]
  simp only [Run.checkOn_eq_ok_iff]

/-! ## What is left -/

namespace Run

variable {a : Artifact} {as : List Artifact} {location : List String} {content : ByteArray}

/-- What is left at a place is the text of an artifact of this place. -/
theorem exists_of_left?_eq_some (h : left? as location = some content) :
    ∃ a ∈ as, place a.path = location ∧ content = a.text.toUTF8 := by
  obtain ⟨a, hfind, rfl⟩ := Option.map_eq_some_iff.1 h
  exact ⟨a, List.mem_reverse.1 (List.mem_of_find?_eq_some hfind),
    by simpa using List.find?_some hfind, rfl⟩

/-- Nothing is left at exactly those places that no artifact has. -/
theorem left?_eq_none_iff : left? as location = none ↔ location ∉ as.map (place ·.path) := by
  constructor
  · rintro hnone hmem
    obtain ⟨a, ha, rfl⟩ := List.mem_map.1 hmem
    obtain ⟨content, hcontent⟩ := exists_left?_of_mem ha
    cases hnone.symm.trans hcontent
  · intro h
    cases hleft : left? as location with
    | none => rfl
    | some content =>
      obtain ⟨a, ha, rfl, -⟩ := exists_of_left?_eq_some hleft
      exact absurd (List.mem_map_of_mem ha) h

/-- Different texts are all left if no two of them have the same place. -/
theorem forall_left?_eq_iff (h : as.Pairwise (·.text ≠ ·.text)) :
    (∀ a ∈ as, left? as (place a.path) = some a.text.toUTF8) ↔
      (as.map (place ·.path)).Nodup := by
  constructor
  · intro hleft
    rw [List.Nodup, List.pairwise_map]
    -- Two artifacts in one place would both have the text that is left there.
    refine h.imp_of_mem fun ha hb hne hplace => hne ?_
    have hbytes := (hleft _ ha).symm.trans (hplace ▸ hleft _ hb)
    exact String.toByteArray_inj.1 (Option.some.inj hbytes)
  · intro hnodup a ha
    obtain ⟨content, hcontent⟩ := exists_left?_of_mem ha
    obtain ⟨b, hb, hplace, rfl⟩ := exists_of_left?_eq_some hcontent
    rw [hcontent, List.inj_on_of_nodup_map hnodup hb ha hplace]

end Run

/-! ## Checking what was written -/

/-- No kind of artifact is asked for twice. -/
theorem Outputs.pairwise_kinds (o : Outputs) : o.kinds.Pairwise (·.1 ≠ ·.1) := by
  refine List.Pairwise.filterMap _ (R := fun k k' => k.1 ≠ k'.1) ?_ (by simp)
  rintro ⟨k, path⟩ ⟨k', path'⟩ hne _ hpath _ hpath'
  obtain ⟨_, -, rfl⟩ := Option.map_eq_some_iff.1 hpath
  obtain ⟨_, -, rfl⟩ := Option.map_eq_some_iff.1 hpath'
  exact hne

namespace Settings

variable {s : Settings} {schema : Schema} {as : List Artifact}

/-- The artifacts have the places of the outputs. -/
theorem map_place_artifacts (h : s.artifacts schema = .ok as) :
    as.map (place ·.path) = s.outputs.kinds.map (place ·.2) :=
  Outcome.map_result_eq h fun _ _ _ ha => congrArg place (artifact_eq_ok_iff.1 ha).1

/-- The artifacts of a run are different texts, and none of them is a schema. -/
theorem text_artifacts (h : s.artifacts schema = .ok as) : as.Pairwise (·.text ≠ ·.text) ∧
    ∀ a ∈ as, ∃ fault, Schema.parse a.text = .error (.fault fault) := by
  have hgenerator : '\n' ∉ Banner.defaultGenerator.toList ∧
      Go.cell ∉ Banner.defaultGenerator.toList := by decide
  refine ⟨Outcome.pairwise_result h s.outputs.pairwise_kinds fun k k' a a' hne ha ha' => ?_,
    fun a ha => ?_⟩
  · exact ArtifactKind.text_ne hgenerator.1 hgenerator.2 hne (artifact_eq_ok_iff.1 ha).2
      (artifact_eq_ok_iff.1 ha').2
  · obtain ⟨k, -, hk⟩ := Outcome.exists_source h ha
    exact ArtifactKind.exists_parse_eq_error hgenerator.1 hgenerator.2 (artifact_eq_ok_iff.1 hk).2

end Settings

namespace Run

variable {a : Artifact} {as : List Artifact} {d d' : Disk} {content : ByteArray}

/-- A schema is loaded only if its file can be read. -/
theorem exists_of_schemaOf_eq_ok {path : String} {content : FileResult ByteArray} {schema : Schema}
    (h : schemaOf path content = .ok schema) : ∃ bytes, content = .ok bytes := by
  cases content with
  | error e => cases h
  | ok bytes => exact ⟨bytes, rfl⟩

/-- A text that is no schema makes the schema fail. -/
theorem schemaOf_toUTF8_eq_error {path text : String} {problem : Json.Problem}
    (h : Schema.parse text = .error problem) :
    schemaOf path (.ok text.toUTF8) = .error (.parseSchema path problem) := by
  rw [schemaOf, Except.bind, textOf_toUTF8]
  simp [Except.mapError, h, bind, Except.bind]

/-- Where the schema was, there is still a file: the schema, or what was written over it. -/
theorem read_schema_after_write {path : String} (hread : d.read path = .ok content)
    (h : onDisk (write as) d = (.ok (), d')) :
    d'.read path = .ok ((left? as (place path)).getD content) := by
  obtain ⟨hkeeps, -, hfiles⟩ := write_eq_ok h
  obtain ⟨hlocate, hfile⟩ := Disk.read_eq_ok_iff.1 hread
  refine Disk.read_eq_ok_iff.2 ⟨Disk.locate_mono hkeeps hlocate, ?_⟩
  rw [hfiles, hfile]
  cases left? as (place path) <;> rfl

/-- After writing, a file has the text of its artifact exactly if this one was left at its place. -/
theorem read_artifact_after_write (ha : a ∈ as) (h : onDisk (write as) d = (.ok (), d')) :
    d'.read a.path = .ok a.text.toUTF8 ↔ left? as (place a.path) = some a.text.toUTF8 := by
  obtain ⟨-, hlocates, hfiles⟩ := write_eq_ok h
  obtain ⟨content, hcontent⟩ := exists_left?_of_mem ha
  rw [Disk.read_eq_ok_iff, and_iff_right (hlocates a ha), hfiles, hcontent, Option.some_or]

end Run

open Run (left?)

/-- **A check after a run passes exactly if the schema and all artifacts have different places.**
Whether it passes or not, it leaves the disk as it is. Disks have no links, so paths have one place
only if they lead to it by name, and nothing else writes to the disk between the run and the
check. -/
theorem check_after_run {s : Settings} {d d' : Disk} (h : onDisk (run s false) d = (.ok (), d')) :
    ∃ outcome, onDisk (run s true) d' = (outcome, d') ∧
      (outcome = .ok () ↔ (place s.schema :: s.outputs.kinds.map (place ·.2)).Nodup) := by
  refine ⟨_, onDisk_run_check s d', ?_⟩
  obtain ⟨as, hmade, hwrite⟩ := onDisk_run_eq_ok_iff.1 h
  obtain ⟨schema, hschema, has⟩ := Outcome.bind_eq_ok_iff.1 hmade
  obtain ⟨content, hread⟩ := Run.exists_of_schemaOf_eq_ok hschema
  have hread' := Run.read_schema_after_write hread hwrite
  obtain ⟨htexts, hfaults⟩ := Settings.text_artifacts has
  rw [← Settings.map_place_artifacts has, List.nodup_cons, ← Run.left?_eq_none_iff]
  cases hleft : left? as (place s.schema) with
  | some bytes =>
    -- The schema is gone, so that no artifacts can be made.
    obtain ⟨a, ha, -, rfl⟩ := Run.exists_of_left?_eq_some hleft
    obtain ⟨fault, hfault⟩ := hfaults a ha
    have hmade' : s.made d' = .error (.parseSchema s.schema (.fault fault)) := by
      rw [Settings.made, hread', hleft, Option.getD_some, Run.schemaOf_toUTF8_eq_error hfault]
      rfl
    rw [hmade']
    exact iff_of_false nofun nofun
  | none =>
    -- The schema is as it was, so that the same artifacts are made again.
    have hmade' : s.made d' = .ok as := by
      rw [← hmade, Settings.made, Settings.made, hread', hleft, hread, Option.getD_none]
    rw [hmade', and_iff_right rfl, ← Run.forall_left?_eq_iff htexts]
    exact Run.checkOn_eq_ok_iff.trans
      (forall₂_congr fun a ha => Run.read_artifact_after_write ha hwrite)

namespace Run

-- Paths of one place need not be written alike.
example : place "./gen/../x" = place "x" ∧ place "x.go" ≠ place "x.yaml" := by decide

/-- A disk with an empty schema. -/
def bare : Disk := .directory [("work", .directory [("s.json", .file "\x7b\x7d".toUTF8)])]

/-- The disk with a file `x` on it. -/
def bareAfter (text : String) : Disk :=
  .directory [("work", .directory [("s.json", .file "\x7b\x7d".toUTF8), ("x", .file text.toUTF8)])]

/-- A run with one path for two outputs ends well, and the second one is left. -/
theorem onDisk_bare : ∃ text,
    onDisk (run (twoOutputs "x" "x") false) bare = (.ok (), bareAfter text) := by
  obtain ⟨source, document, hmade⟩ :=
    exists_made_twoOutputs (show bare.read "s.json" = _ from rfl) "x" "x"
  refine ⟨document, ?_⟩
  have hname : Path.parent? "x" = some "" := by decide
  have hsource : onDisk (writeArtifact ⟨"x", source⟩) bare = (.ok (), bareAfter source) := by
    have hwrite : bare.write "x" source.toUTF8 = .ok (bareAfter source) := rfl
    rw [onDisk_writeArtifact_of_name _ _ hname, hwrite]
  have hdocument : onDisk (writeArtifact ⟨"x", document⟩) (bareAfter source) =
      (.ok (), bareAfter document) := by
    have hwrite : (bareAfter source).write "x" document.toUTF8 = .ok (bareAfter document) := rfl
    rw [onDisk_writeArtifact_of_name _ _ hname, hwrite]
  refine onDisk_run_eq_ok_iff.2 ⟨_, hmade, ?_⟩
  rw [onDisk_write_pair hsource, hdocument]

/-- A run that writes both artifacts to one file succeeds, and the check after it fails. -/
theorem check_after_run_bare : ∃ text,
    onDisk (run (twoOutputs "x" "x") false) bare = (.ok (), bareAfter text) ∧
    ∃ outcome, onDisk (run (twoOutputs "x" "x") true) (bareAfter text) =
      (outcome, bareAfter text) ∧ outcome ≠ .ok () := by
  obtain ⟨text, h⟩ := onDisk_bare
  obtain ⟨outcome, hcheck, hiff⟩ := check_after_run h
  refine ⟨text, h, outcome, hcheck, fun hok => absurd (hiff.1 hok) ?_⟩
  decide

end Run

end EntityModel
