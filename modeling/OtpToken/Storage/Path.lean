/-!
# Paths

A path is followed part by part, from the root if it begins with a slash and from the
working folder otherwise. An empty part and a single dot stay where they are, two dots
lead to the folder above, and any other part is the name of what is entered.
-/

namespace OtpToken

/-- A place on a disk: the names that lead to it from the root. -/
abbrev Place := List String

/-- Where a part of a path leads from a place; above the root there is the root itself. -/
def Place.follow (place : Place) (part : String) : Place :=
  if part = "" ∨ part = "." then place
  else if part = ".." then place.dropLast
  else place ++ [part]

namespace Path

/-- The greatest number of bytes of a name. -/
def maxNameSize : Nat := 255

/-- The greatest number of bytes of a path. -/
def maxSize : Nat := 4095

/-- The parts of a text between its slashes, empty ones included. -/
def partsOf : List Char → List (List Char)
  | [] => [[]]
  | c :: rest =>
    if c = '/' then [] :: partsOf rest
    else
      match partsOf rest with
      | [] => [[c]]
      | part :: others => (c :: part) :: others

/-- The parts of a path. -/
def parts (path : String) : List String := (partsOf path.toList).map String.ofList

/-- Where a path starts. -/
def start (working : Place) (path : String) : Place :=
  if path.toList.head? = some '/' then [] else working

/-- The places that a path leads through, the last one first. -/
def places (working : Place) (path : String) : List Place :=
  (parts path).foldl (fun passed part => ((passed.headD []).follow part) :: passed)
    [start working path]

end Path

end OtpToken
