import EntityModel.Files.Disk
import EntityModel.Proofs.Outcome

/-! # Disks by location

What is under a location is a file or a directory (`Disk.nodeAt?`). A path leads to a place that
does not depend on the disk, if it leads anywhere (`Disk.locate_eq_ok`), and it leads there still
when directories are added (`Disk.locate_mono`). Writing a file changes what is at its place and
nothing else (`Disk.write_eq_ok`), and making a directory changes no file
(`Disk.grows_makeDirectory`). -/

namespace EntityModel.Disk

variable {d d' new : Disk} {location : List String} {content : ByteArray}

/-! ## Nodes -/

/-- What may be at a location: a file with its content, or a directory, whatever it holds. -/
inductive Node where
  /-- A file. -/
  | file (content : ByteArray)
  /-- A directory. -/
  | directory

/-- The disk as a node. -/
def node : Disk → Node
  | .file content => .file content
  | .directory _ => .directory

/-- What is at a location. -/
def nodeAt? (d : Disk) (location : List String) : Option Node := (d.find? location).map node

/-- At the root of a disk is what the disk is. -/
@[simp] theorem nodeAt?_nil (d : Disk) : d.nodeAt? [] = some d.node := by
  rw [nodeAt?, find?_nil, Option.map_some]

/-- A location in a directory is one below the entry of its first name. -/
theorem nodeAt?_cons_directory (entries : List (String × Disk)) (name : String)
    (rest : List String) : (Disk.directory entries).nodeAt? (name :: rest) =
      (Entries.find? name entries).bind (·.nodeAt? rest) := by
  rw [nodeAt?, find?, Option.map_bind]
  rfl

/-- The file at a location is the node there. -/
theorem fileAt?_eq_some_iff :
    d.fileAt? location = some content ↔ d.nodeAt? location = some (.file content) := by
  unfold fileAt? nodeAt?
  cases d.find? location with
  | none => simp
  | some inner => cases inner <;> simp [node]

/-- There is nothing at a location exactly if there is no node. -/
theorem find?_eq_none_iff : d.find? location = none ↔ d.nodeAt? location = none := by
  rw [nodeAt?, Option.map_eq_none_iff]

/-- The node at a location is a directory exactly if a directory is found there. -/
theorem nodeAt?_eq_directory_iff : d.nodeAt? location = some .directory ↔
    ∃ entries, d.find? location = some (.directory entries) := by
  unfold nodeAt?
  cases d.find? location with
  | none => simp
  | some inner => cases inner <;> simp [node]

/-- What is above a location where there is something is a directory. -/
theorem nodeAt?_of_append_singleton {name : String} {n : Node}
    (h : d.nodeAt? (location ++ [name]) = some n) : d.nodeAt? location = some .directory := by
  induction location generalizing d with
  | nil =>
    cases d with
    | file => cases h
    | directory => rfl
  | cons first rest ih =>
    cases d with
    | file => cases h
    | directory entries =>
      rw [List.cons_append, nodeAt?_cons_directory] at h
      obtain ⟨inner, hfind, hinner⟩ := Option.bind_eq_some_iff.1 h
      rw [nodeAt?_cons_directory, hfind]
      exact ih hinner

/-! ## Putting -/

/-- Only what is below the first name of the location can be another one. -/
theorem nodeAt?_put_cons (entries : List (String × Disk)) (name : String) (rest : List String)
    (other : String) (more : List String) :
    (put new (name :: rest) (.directory entries)).nodeAt? (other :: more) =
      if other = name then (put new rest ((Entries.find? name entries).getD empty)).nodeAt? more
      else (Disk.directory entries).nodeAt? (other :: more) := by
  rw [put, nodeAt?_cons_directory, nodeAt?_cons_directory]
  split
  · rename_i heq
    rw [heq, Entries.find?_insert_self]
    rfl
  · rename_i hne
    rw [Entries.find?_insert_of_ne (Ne.symm hne)]

/-- The location has a name, and the directory around it is there. -/
def Hangs (d : Disk) (location : List String) : Prop :=
  ∃ above name, location = above ++ [name] ∧ d.nodeAt? above = some .directory

/-- If nothing is in what is put, and no directory in its way, then what is at other locations stays
as it is. -/
theorem nodeAt?_put (hnew : ∀ name rest, new.nodeAt? (name :: rest) = none)
    (hlocation : d.Hangs location) (hfree : d.nodeAt? location ≠ some .directory)
    (other : List String) : (put new location d).nodeAt? other =
      if other = location then some new.node else d.nodeAt? other := by
  obtain ⟨above, name, rfl, habove⟩ := hlocation
  -- One directory after the other, down to the one around the location.
  induction above generalizing d other with
  | nil =>
    cases d with
    | file => cases habove
    | directory entries =>
      cases other with
      | nil => simp [put, node]
      | cons first more =>
        rw [List.nil_append, nodeAt?_put_cons, put_nil]
        by_cases hfirst : first = name
        · subst hfirst
          cases more with
          | nil => simp
          | cons second more =>
            -- Nothing is below the location, before and after.
            have hbelow : (Disk.directory entries).nodeAt? (first :: second :: more) = none := by
              rw [List.nil_append, nodeAt?_cons_directory] at hfree
              rw [nodeAt?_cons_directory]
              cases hfind : Entries.find? first entries with
              | none => rfl
              | some inner =>
                cases inner with
                | file => rfl
                | directory => exact absurd (by rw [hfind]; rfl) hfree
            simp [hnew, hbelow]
        · simp [hfirst]
  | cons first above ih =>
    cases d with
    | file => cases habove
    | directory entries =>
      rw [nodeAt?_cons_directory] at habove
      obtain ⟨inner, hfind, hinner⟩ := Option.bind_eq_some_iff.1 habove
      rw [List.cons_append, nodeAt?_cons_directory, hfind] at hfree
      cases other with
      | nil => simp [put, node]
      | cons second more =>
        rw [List.cons_append, nodeAt?_put_cons, hfind, Option.getD_some]
        by_cases hsecond : second = first
        · subst hsecond
          rw [if_pos rfl, ih more hinner hfree, nodeAt?_cons_directory, hfind]
          simp
        · simp [hsecond]

/-! ## Growing -/

/-- Directories were added, and nothing else was changed. -/
def Grows (d d' : Disk) : Prop := ∀ location, d'.nodeAt? location = d.nodeAt? location ∨
  d.nodeAt? location = none ∧ d'.nodeAt? location = some .directory

/-- A disk that stays as it is has only grown. -/
theorem Grows.refl (d : Disk) : d.Grows d := fun _ => .inl rfl

/-- A disk that has grown twice has grown. -/
theorem Grows.trans {d'' : Disk} (h : d.Grows d') (h' : d'.Grows d'') : d.Grows d'' := by
  intro location
  rcases h location with hsame | ⟨hnone, hdirectory⟩
  · rw [← hsame]
    exact h' location
  · rcases h' location with hsame | ⟨hnone', -⟩
    · exact .inr ⟨hnone, hsame.trans hdirectory⟩
    · rw [hdirectory] at hnone'
      cases hnone'

/-- Putting a directory where nothing is adds it, and those above it. -/
theorem grows_put_empty (h : d.nodeAt? location = none) : d.Grows (put empty location d) := by
  induction location generalizing d with
  | nil =>
    rw [nodeAt?_nil] at h
    cases h
  | cons name rest ih =>
    cases d with
    | file => exact Grows.refl _
    | directory entries =>
      intro other
      cases other with
      | nil => exact .inl (by simp [put, node])
      | cons first more =>
        rw [nodeAt?_put_cons]
        by_cases hfirst : first = name
        · subst hfirst
          rw [if_pos rfl, nodeAt?_cons_directory]
          rw [nodeAt?_cons_directory] at h
          cases hfind : Entries.find? first entries with
          | some inner =>
            rw [hfind] at h
            exact ih h more
          | none =>
            -- A new directory, and in it those on the rest of the way.
            cases rest with
            | nil =>
              cases more with
              | nil => exact .inr ⟨rfl, rfl⟩
              | cons => exact .inl rfl
            | cons second rest =>
              rcases ih (d := empty) rfl more with hsame | ⟨-, hdirectory⟩
              · cases more with
                | nil => exact .inr ⟨rfl, hsame⟩
                | cons => exact .inl hsame
              · exact .inr ⟨rfl, hdirectory⟩
        · exact .inl (if_neg hfirst)

/-- Every directory of the one disk is one of the other. -/
def KeepsDirectories (d d' : Disk) : Prop :=
  ∀ location, d.nodeAt? location = some .directory → d'.nodeAt? location = some .directory

/-- Directories that are kept twice are kept. -/
theorem KeepsDirectories.trans {d'' : Disk} (h : d.KeepsDirectories d')
    (h' : d'.KeepsDirectories d'') : d.KeepsDirectories d'' :=
  fun location hlocation => h' location (h location hlocation)

/-- A disk that has only grown keeps its directories. -/
theorem Grows.keepsDirectories (h : d.Grows d') : d.KeepsDirectories d' := by
  intro location hlocation
  rcases h location with hsame | ⟨hnone, -⟩
  · exact hsame.trans hlocation
  · cases hlocation.symm.trans hnone

/-- No file is changed when directories are added. -/
theorem Grows.fileAt?_eq (h : d.Grows d') (location : List String) :
    d'.fileAt? location = d.fileAt? location := by
  refine Option.ext fun content => ?_
  rw [fileAt?_eq_some_iff, fileAt?_eq_some_iff]
  rcases h location with hsame | ⟨hnone, hdirectory⟩
  · rw [hsame]
  · rw [hnone, hdirectory]
    exact iff_of_false nofun nofun

/-! ## Places -/

/-- Where parts lead from a location, which is written backwards, whatever is there. -/
def placeFrom : List String → List String → List String
  | here, [] => here.reverse
  | here, part :: rest =>
    if part = "" ∨ part = "." then placeFrom here rest
    else if part = ".." then placeFrom here.tail rest
    else placeFrom (part :: here) rest

/-- Where a path leads. -/
def place (path : String) : List String := placeFrom (startOf path) (Path.parts path)

section

variable {here parts : List String} {path : String}

/-- The parts lead from one location, which is written backwards, to the other one. Only a directory
is left for another place. -/
inductive Leads (d : Disk) : List String → List String → List String → Prop
  /-- Nowhere else. -/
  | done {here : List String} : Leads d here [] here.reverse
  /-- A part that leads nowhere. -/
  | stay {here rest location : List String} {part : String}
      (hhere : d.nodeAt? here.reverse = some .directory) (hpart : part = "" ∨ part = ".")
      (h : Leads d here rest location) : Leads d here (part :: rest) location
  /-- Two dots. -/
  | up {here rest location : List String} (hhere : d.nodeAt? here.reverse = some .directory)
      (h : Leads d here.tail rest location) : Leads d here (".." :: rest) location
  /-- A name. -/
  | down {here rest location : List String} {part : String}
      (hhere : d.nodeAt? here.reverse = some .directory) (hpart : ¬(part = "" ∨ part = "."))
      (hname : part ≠ "..") (hshort : part.utf8ByteSize ≤ nameLimit)
      (h : Leads d (part :: here) rest location) : Leads d here (part :: rest) location

/-- Parts that are followed to a location lead to it. -/
theorem leads_of_follow (h : d.follow here parts = .ok location) :
    d.Leads here parts location := by
  fun_induction follow d here parts with
  | case1 =>
    obtain rfl := Except.ok.inj h
    exact .done
  | case2 => cases h
  | case3 => cases h
  -- The part is empty or a dot.
  | case4 here part rest _ hfind hpart ih =>
    exact .stay (nodeAt?_eq_directory_iff.2 ⟨_, hfind⟩) hpart (ih h)
  -- Two dots.
  | case5 here rest _ hfind hpart ih => exact .up (nodeAt?_eq_directory_iff.2 ⟨_, hfind⟩) (ih h)
  | case6 => cases h
  -- The name of what is in the directory.
  | case7 here part rest _ hfind hpart hname hshort ih =>
    exact .down (nodeAt?_eq_directory_iff.2 ⟨_, hfind⟩) hpart hname (Nat.not_lt.1 hshort) (ih h)

/-- Parts that lead to a location are followed to it. -/
theorem Leads.follow (h : d.Leads here parts location) :
    d.follow here parts = .ok location := by
  induction h with
  | done => rfl
  | stay hhere hpart _ ih =>
    obtain ⟨entries, hfind⟩ := nodeAt?_eq_directory_iff.1 hhere
    rw [Disk.follow, hfind]
    exact (if_pos hpart).trans ih
  | up hhere _ ih =>
    obtain ⟨entries, hfind⟩ := nodeAt?_eq_directory_iff.1 hhere
    rw [Disk.follow, hfind]
    exact ih
  | down hhere hpart hname hshort _ ih =>
    obtain ⟨entries, hfind⟩ := nodeAt?_eq_directory_iff.1 hhere
    simp [Disk.follow, hfind, hpart, hname, Nat.not_lt.2 hshort, ih]

/-- The location that parts lead to is the one that their names tell. -/
theorem Leads.eq_placeFrom (h : d.Leads here parts location) :
    location = placeFrom here parts := by
  induction h with
  | done => rfl
  | stay _ hpart _ ih => rw [placeFrom, if_pos hpart, ih]
  | up _ _ ih => rw [placeFrom, if_neg (by decide), if_pos rfl, ih]
  | down _ hpart hname _ _ ih => rw [placeFrom, if_neg hpart, if_neg hname, ih]

/-- The way through directories is the same where these are kept. -/
theorem Leads.mono (hd : d.KeepsDirectories d') (h : d.Leads here parts location) :
    d'.Leads here parts location := by
  induction h with
  | done => exact .done
  | stay hhere hpart _ ih => exact .stay (hd _ hhere) hpart ih
  | up hhere _ ih => exact .up (hd _ hhere) ih
  | down hhere hpart hname hshort _ ih => exact .down (hd _ hhere) hpart hname hshort ih

/-- A way that starts at or in a directory ends at or in one. -/
theorem Leads.hangs (hhere : d.nodeAt? here.reverse = some .directory ∨ d.Hangs here.reverse)
    (h : d.Leads here parts location) :
    d.nodeAt? location = some .directory ∨ d.Hangs location := by
  induction h with
  | done => exact hhere
  | stay hdirectory _ _ ih => exact ih (.inl hdirectory)
  | @up here _ _ hdirectory _ ih =>
    -- The directory above is one, since this one is in it.
    refine ih (.inl ?_)
    cases here with
    | nil => exact hdirectory
    | cons name above =>
      rw [List.reverse_cons] at hdirectory
      exact nodeAt?_of_append_singleton hdirectory
  | @down here _ _ part hdirectory _ _ _ _ ih =>
    exact ih (.inr ⟨here.reverse, part, List.reverse_cons, hdirectory⟩)

/-- Parts that lead anywhere start in a directory. -/
theorem Leads.nodeAt?_start {part : String} (h : d.Leads here (part :: parts) location) :
    d.nodeAt? here.reverse = some .directory := by
  cases h <;> assumption

/-- A path has at least one part. -/
theorem exists_parts_eq_cons (path : String) : ∃ part rest, Path.parts path = part :: rest := by
  have hne : Path.partsOf path.toList ≠ [] := by
    unfold Path.partsOf
    split
    · exact List.cons_ne_nil _ _
    · split
      · split <;> exact List.cons_ne_nil _ _
      · exact List.cons_ne_nil _ _
  exact List.exists_cons_of_ne_nil fun h => hne (List.map_eq_nil_iff.1 h)

/-- A path leads to its place, and this is a directory or in one. -/
theorem locate_eq_ok (h : d.locate path = .ok location) :
    location = place path ∧ (d.nodeAt? location = some .directory ∨ d.Hangs location) := by
  obtain ⟨_, -, hfollow⟩ := Outcome.bind_eq_ok_iff.1 h
  have hleads := leads_of_follow hfollow
  refine ⟨hleads.eq_placeFrom, ?_⟩
  obtain ⟨part, rest, hparts⟩ := exists_parts_eq_cons path
  rw [hparts] at hleads
  exact hleads.hangs (.inl hleads.nodeAt?_start)

/-- A path leads to the same location on a disk that keeps the directories. -/
theorem locate_mono (hd : d.KeepsDirectories d') (h : d.locate path = .ok location) :
    d'.locate path = .ok location := by
  obtain ⟨_, hpath, hfollow⟩ := Outcome.bind_eq_ok_iff.1 h
  exact Outcome.bind_eq_ok_iff.2 ⟨_, hpath, ((leads_of_follow hfollow).mono hd).follow⟩

/-! ## Operations -/

/-- A file is read if the path leads anywhere and there is a file at its place. -/
theorem read_eq_ok_iff : d.read path = .ok content ↔
    d.locate path = .ok (place path) ∧ d.fileAt? (place path) = some content := by
  unfold read
  rw [Outcome.bind_eq_ok_iff]
  constructor
  · rintro ⟨location, hlocate, hread⟩
    obtain ⟨rfl, -⟩ := locate_eq_ok hlocate
    refine ⟨hlocate, ?_⟩
    unfold fileAt?
    split at hread
    · rename_i hfind
      rw [hfind, ← Except.ok.inj hread]
    · cases hread
    · cases hread
  · rintro ⟨hlocate, hfile⟩
    refine ⟨_, hlocate, ?_⟩
    unfold fileAt? at hfile
    split at hfile
    · rename_i hfind
      rw [hfind, ← Option.some.inj hfile]
    · cases hfile

/-- A file that is written is at its place, and nothing else is changed. -/
theorem write_eq_ok (h : d.write path content = .ok d') :
    d.locate path = .ok (place path) ∧ d.nodeAt? (place path) ≠ some .directory ∧
      ∀ location, d'.nodeAt? location =
        if location = place path then some (.file content) else d.nodeAt? location := by
  obtain ⟨location, hlocate, hwrite⟩ := Outcome.bind_eq_ok_iff.1 h
  obtain ⟨rfl, hhangs⟩ := locate_eq_ok hlocate
  have hfree : d.nodeAt? (place path) ≠ some .directory := by
    rw [Ne, nodeAt?_eq_directory_iff]
    rintro ⟨entries, hfind⟩
    rw [hfind] at hwrite
    cases hwrite
  refine ⟨hlocate, hfree, fun location => ?_⟩
  split at hwrite
  · cases hwrite
  · rw [← Except.ok.inj hwrite]
    exact nodeAt?_put (fun _ _ => rfl) (hhangs.resolve_left hfree) hfree location

/-- A file that is written is at its place, all others are as they were, and directories stay. -/
theorem files_of_write_eq_ok (h : d.write path content = .ok d') :
    d.locate path = .ok (place path) ∧ d.KeepsDirectories d' ∧ ∀ location,
      d'.fileAt? location = if location = place path then some content else d.fileAt? location := by
  obtain ⟨hlocate, hfree, hnodes⟩ := write_eq_ok h
  refine ⟨hlocate, fun location hlocation => ?_, fun location => ?_⟩
  · rw [hnodes, if_neg, hlocation]
    rintro rfl
    exact hfree hlocation
  · refine Option.ext fun other => ?_
    rw [fileAt?_eq_some_iff, hnodes]
    by_cases hplace : location = place path
    · simp [hplace]
    · simp [hplace, fileAt?_eq_some_iff]

/-- Making directories adds directories, also if it fails. -/
theorem grows_makeAlong (here parts : List String) (d : Disk) :
    d.Grows (makeAlong here parts d).2 := by
  fun_induction makeAlong here parts d with
  | case1 => exact Grows.refl _
  -- Dots make nothing.
  | case2 _ _ _ _ _ ih => exact ih
  | case3 _ _ _ _ ih => exact ih
  | case4 => exact Grows.refl _
  -- The directory is there.
  | case5 _ _ _ _ _ _ _ _ _ _ ih => exact ih
  | case6 => exact Grows.refl _
  -- Only here a directory is made.
  | case7 here rest d part _ _ _ next hfind ih =>
    exact (grows_put_empty (find?_eq_none_iff.1 hfind)).trans ih

/-- Making a directory only makes the disk grow. -/
theorem grows_makeDirectory (d : Disk) (path : String) : d.Grows (d.makeDirectory path).2 := by
  unfold makeDirectory
  cases checkPath path with
  | error e => exact Grows.refl d
  | ok => exact grows_makeAlong _ _ d

end

end EntityModel.Disk
