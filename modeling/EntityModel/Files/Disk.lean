import EntityModel.Files.Basic
import EntityModel.Files.Path
import EntityModel.NameMap

/-! # Disks

A disk is a tree of directories with files. A location is the list of names on the way from its
root. A path leads to a location step by step, and every step but the last one has to stay within
directories that are there. The way starts at the root if the path starts with a slash, and at the
working directory otherwise, which is a directory in the root.

Disks have no links, neither symbolic nor hard ones, so two locations never share a file. Nor do
they fill up or break: a file is written as a whole or not at all, and nobody else changes it. -/

namespace EntityModel

/-- What is found at a location. -/
inductive Disk where
  /-- A file and its content. -/
  | file (content : ByteArray)
  /-- A directory and what is in it, under ascending names. -/
  | directory (entries : List (String × Disk))

namespace Disk

/-- An empty directory is a disk. -/
instance : Inhabited Disk := ⟨.directory []⟩

/-- The empty directory. -/
def empty : Disk := .directory []

/-- The location of the working directory. -/
def workingDirectory : List String := ["work"]

/-- The disk of which the working directory is empty, and nothing is around it. -/
def fresh : Disk := .directory [("work", empty)]

/-! ## Locations -/

/-- What is at a location. -/
def find? (d : Disk) : List String → Option Disk
  | [] => some d
  | name :: rest =>
    match d with
    | .directory entries => (Entries.find? name entries).bind fun inner => inner.find? rest
    | .file _ => none

/-- Puts something at a location whose directory is there. -/
def put (new : Disk) : List String → Disk → Disk
  | [], _ => new
  | name :: rest, .directory entries =>
    let inner := (Entries.find? name entries).getD empty
    .directory (Entries.insert name (put new rest inner) entries)
  | _ :: _, .file content => .file content

/-- Removes what is at a location. -/
def remove : List String → Disk → Disk
  | [name], .directory entries => .directory (entries.filter (·.1 ≠ name))
  | name :: rest, .directory entries =>
    match Entries.find? name entries with
    | some inner => .directory (Entries.insert name (remove rest inner) entries)
    | none => .directory entries
  | _, d => d

/-- The content of the file at a location. -/
def fileAt? (d : Disk) (location : List String) : Option ByteArray :=
  match d.find? location with
  | some (.file content) => some content
  | _ => none

mutual

/-- The files of a disk with their locations, each behind the names of the directories around. -/
def files (above : List String) : Disk → List (List String × ByteArray)
  | .file content => [(above, content)]
  | .directory entries => filesOfEntries above entries

/-- The files in a directory. -/
def filesOfEntries (above : List String) : List (String × Disk) → List (List String × ByteArray)
  | [] => []
  | (name, inner) :: rest => inner.files (above ++ [name]) ++ filesOfEntries above rest

end

/-- The part of the disk below the working directory. -/
def working (d : Disk) : Disk := (d.find? workingDirectory).getD empty

/-- The whole disk is at its root. -/
@[simp] theorem find?_nil (d : Disk) : d.find? [] = some d := by
  cases d <;> rfl

/-- What is put at the root takes the place of the whole disk. -/
@[simp] theorem put_nil (new d : Disk) : put new [] d = new := by
  cases d <;> rfl

/-- The working directory of the fresh disk is empty. -/
@[simp] theorem working_fresh : fresh.working = empty := rfl

/-! ## Paths -/

/-- The greatest number of bytes in a name. -/
def nameLimit : Nat := 255

/-- The greatest number of bytes in a path. -/
def pathLimit : Nat := 4095

/-- Passes if a path may lead somewhere at all. -/
def checkPath (path : String) : FileResult Unit :=
  if path.toList.contains '\x00' then .error .nulInPath
  else if path = "" then .error .notFound
  else if pathLimit < path.utf8ByteSize then .error .nameTooLong
  else .ok ()

/-- The location at which a path starts, written backwards. -/
def startOf (path : String) : List String :=
  if path.toList.head? = some '/' then [] else workingDirectory.reverse

/-- Where the parts of a path lead from a location, which is written backwards. -/
def follow (d : Disk) : List String → List String → FileResult (List String)
  | here, [] => .ok here.reverse
  | here, part :: rest =>
    match d.find? here.reverse with
    | none => .error .notFound
    | some (.file _) => .error .notADirectory
    | some (.directory _) =>
      if part = "" ∨ part = "." then follow d here rest
      else if part = ".." then follow d here.tail rest
      else if nameLimit < part.utf8ByteSize then .error .nameTooLong
      else follow d (part :: here) rest

/-- The location that a path leads to. There may be nothing at it yet. -/
def locate (d : Disk) (path : String) : FileResult (List String) := do
  checkPath path
  d.follow (startOf path) (Path.parts path)

/-- The content of a file. -/
def read (d : Disk) (path : String) : FileResult ByteArray := do
  match d.find? (← d.locate path) with
  | some (.file content) => .ok content
  | some (.directory _) => .error .isADirectory
  | none => .error .notFound

/-- The disk with a file written to it. -/
def write (d : Disk) (path : String) (content : ByteArray) : FileResult Disk := do
  let location ← d.locate path
  -- The location is in a directory that is there, because `locate` went through it.
  match d.find? location with
  | some (.directory _) => .error .isADirectory
  | _ => .ok (put (.file content) location d)

/-- Makes the directories on the way from a location, which is written backwards. Those that are
made before a failure stay. -/
def makeAlong (here : List String) : List String → Disk → FileResult Unit × Disk
  | [], d => (.ok (), d)
  | part :: rest, d =>
    if part = "" ∨ part = "." then makeAlong here rest d
    else if part = ".." then makeAlong here.tail rest d
    else if nameLimit < part.utf8ByteSize then (.error .nameTooLong, d)
    else
      let next := part :: here
      match d.find? next.reverse with
      | some (.directory _) => makeAlong next rest d
      | some (.file _) => (.error .notADirectory, d)
      | none => makeAlong next rest (put empty next.reverse d)

/-- Makes a directory and those above it, as far as they are missing. -/
def makeDirectory (d : Disk) (path : String) : FileResult Unit × Disk :=
  match checkPath path with
  | .ok () => makeAlong (startOf path) (Path.parts path) d
  | .error e => (.error e, d)

end Disk

/-! ## Programs on a disk -/

/-- A program that works on a disk. -/
abbrev DiskM := StateM Disk

/-- The operations on files, on a disk that is held in memory. -/
instance : MonadFiles DiskM where
  isFile path := do return (← get).read path |>.toBool
  read path := do return (← get).read path
  makeDirectory path := modifyGet (·.makeDirectory path)
  write path content := do
    match (← get).write path content with
    | .ok d => set d; return .ok ()
    | .error e => return .error e

end EntityModel
