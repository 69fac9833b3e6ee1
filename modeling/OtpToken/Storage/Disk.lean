import OtpToken.Bytes
import OtpToken.Storage.Path

/-!
# Disks

A disk says for every place what is found there, and where relative paths start. A
path can be followed only through folders. Files can be made and replaced, and
`read_of_write?` says that what has been written is read again by the same path.
-/

namespace OtpToken

/-- What is found at a place. -/
inductive Node
  /-- Nothing, and a file could be made if a folder leads here. -/
  | vacant
  /-- Nothing, and no file can be made. -/
  | barred
  | folder
  | file (content : Bytes)
  deriving DecidableEq, Repr

/-- The working folder, and the nodes of all places. -/
structure Disk where
  working : Place
  node : Place → Node

/-- Why a path leads to no content. -/
inductive ReadError
  | notFound
  | refused
  deriving DecidableEq, Repr

namespace Disk

/-- Puts a node at a place; every other place stays as it is. -/
def set (disk : Disk) (place : Place) (node : Node) : Disk :=
  { disk with node := fun other => if other = place then node else disk.node other }

/-- A place holds the node that it has been set to. -/
@[simp] theorem set_same (disk : Disk) (place : Place) (node : Node) :
    (disk.set place node).node place = node := by simp [set]

/-- Setting a place leaves every other one. -/
theorem set_other (disk : Disk) {place other : Place} (node : Node) (h : other ≠ place) :
    (disk.set place node).node other = disk.node other := by simp [set, h]

/-- The place of a name in the working folder. -/
def inWorking (disk : Disk) (name : String) : Place := disk.working ++ [name]

/-- Makes a folder where there is nothing. -/
def makeFolder (disk : Disk) (place : Place) : Disk :=
  match disk.node place with
  | .vacant => disk.set place .folder
  | .barred | .folder | .file _ => disk

/-- The disk without a folder and all that is in it. -/
def removeFolder (disk : Disk) (place : Place) : Disk :=
  { disk with node := fun other => if place <+: other then .vacant else disk.node other }

/-- Follows one part of a path from a place, which has to be a folder. A name that is too long
is refused. -/
def enter (disk : Disk) (place : Place) (part : String) : Except ReadError Place :=
  match disk.node place with
  | .folder =>
    if part.utf8ByteSize ≤ Path.maxNameSize then .ok (place.follow part) else .error .refused
  | .file _ => .error .refused
  | .vacant | .barred => .error .notFound

/-- The place that a path leads to. The empty path leads nowhere, and a path that is too long is
refused. -/
def find (disk : Disk) (path : String) : Except ReadError Place :=
  if path = "" then .error .notFound
  else if Path.maxSize < path.utf8ByteSize then .error .refused
  else (Path.parts path).foldlM disk.enter (Path.start disk.working path)

/-- The content of a file. -/
def read (disk : Disk) (path : String) : Except ReadError Bytes := do
  match disk.node (← disk.find path) with
  | .file content => return content
  | .folder => throw .refused
  | .vacant | .barred => throw .notFound

/-- The disk after a file has been made or replaced, if it can be. -/
def write? (disk : Disk) (path : String) (content : Bytes) : Option Disk :=
  match disk.find path with
  | .error _ => none
  | .ok place =>
    match disk.node place with
    | .file _ | .vacant => some (disk.set place (.file content))
    | .folder | .barred => none

/-- The content of a file, if there is one. -/
def content? (disk : Disk) (path : String) : Option Bytes := (disk.read path).toOption

/-- A working folder that holds nothing. Elsewhere there are only the folders above it and the
device that is read as nothing. -/
def blank : Disk where
  working := ["tmp", "work"]
  node place :=
    if place ∈ [[], ["tmp"], ["tmp", "work"], ["dev"]] then .folder
    else if place = ["dev", "null"] then .file []
    else .vacant

/-- A step along a path can still be taken where every folder is still a folder. -/
theorem enter_of_folders {disk after : Disk}
    (folders : ∀ place, disk.node place = .folder → after.node place = .folder)
    {place next : Place} {part : String} (h : disk.enter place part = .ok next) :
    after.enter place part = .ok next := by
  unfold enter at h ⊢
  split at h
  next folder => simpa [folders place folder] using h
  all_goals cases h

/-- A path still leads to its place where every folder is still a folder. -/
theorem find_of_folders {disk after : Disk} (working : after.working = disk.working)
    (folders : ∀ place, disk.node place = .folder → after.node place = .folder)
    {path : String} {place : Place} (h : disk.find path = .ok place) :
    after.find path = .ok place := by
  have follow : ∀ (parts : List String) (begin : Place),
      parts.foldlM disk.enter begin = .ok place → parts.foldlM after.enter begin = .ok place := by
    intro parts
    induction parts with
    | nil => exact fun _ ended => ended
    | cons part rest ih =>
      intro begin passed
      rw [List.foldlM_cons] at passed ⊢
      cases entered : disk.enter begin part with
      | error _ => simp [entered, bind, Except.bind] at passed
      | ok next =>
        simp only [entered, bind, Except.bind] at passed
        simpa [enter_of_folders folders entered, bind, Except.bind] using ih next passed
  unfold find at h ⊢
  split at h
  next => cases h
  next named =>
    split at h
    next => cases h
    next fits =>
      rw [if_neg named, if_neg fits, working]
      exact follow _ _ h

/-- What has been written by a path is read by it. -/
theorem read_of_write? {disk after : Disk} {path : String} {content : Bytes}
    (h : disk.write? path content = some after) : after.read path = .ok content := by
  unfold write? at h
  split at h
  next => cases h
  next place found =>
    have notFolder : disk.node place ≠ .folder := by
      intro folder
      simp [folder] at h
    have made : after = disk.set place (.file content) := by
      split at h <;> simp_all
    subst made
    have folders : ∀ other, disk.node other = .folder →
        (disk.set place (.file content)).node other = .folder := by
      intro other folder
      have apart : other ≠ place := by
        rintro rfl
        exact notFolder folder
      rwa [set_other _ _ apart]
    have again : (disk.set place (.file content)).find path = .ok place :=
      find_of_folders (by rfl) folders found
    simp [read, again, bind, Except.bind, pure, Except.pure]

end Disk

end OtpToken
