import TraceLens.Failure
import TraceLens.Table

/-!
# The disk

Files by path, seen from one working directory. A path is read step by step: an empty step and `.`
stay where they are, `..` goes up, and every step but the last must lead to a directory.
-/

namespace TraceLens

/-- A place on the disk: the steps that lead to it from the working directory, or the root of the
system and the steps from there. Steps upwards stand at the beginning. -/
abbrev DiskPlace := List String

/-- The files of a disk by their places. -/
structure Disk where
  files : Table DiskPlace (List UInt8) := {}

namespace Disk

/-- The root of the system. -/
def root : DiskPlace := ["/"]

def isAbsolute (path : String) : Bool := path.toList.head? == some '/'

/-- The steps of a path, the empty ones included. -/
def rawSteps (path : String) : List String := (path.toList.splitOn '/').map String.ofList

/-- Where the steps of a path start. -/
def start (path : String) : DiskPlace := if isAbsolute path then root else []

/-- The place of a file that is known to be there. -/
def placeOfFile (path : String) : DiskPlace :=
  start path ++ (rawSteps path).filter fun step => step ≠ "" ∧ step ≠ "."

/-- The path of a place. -/
def pathOf : DiskPlace → String
  | [] => "."
  | first :: rest =>
    if first = "/" then "/" ++ "/".intercalate rest else "/".intercalate (first :: rest)

def ofList (files : List (String × List UInt8)) : Disk :=
  ⟨Table.ofList (files.map fun (path, content) => (placeOfFile path, content))⟩

/-- Whether a place is a directory whatever files there are. -/
def isTop (place : DiskPlace) : Bool := place == root || place.all (· == "..")

/-- What a place holds. -/
inductive Entry where
  | file (content : List UInt8)
  | directory
  | nothing

/-- What stands at a place; a directory is there because of the files below it. -/
def entry (d : Disk) (place : DiskPlace) : Entry :=
  match d.files.find? place with
  | some content => .file content
  | none =>
    if isTop place || d.files.keys.any fun file => place.isPrefixOf file then .directory
    else .nothing

/-- One step up. -/
def up (place : DiskPlace) : DiskPlace :=
  if place = root then place
  else if isTop place then place ++ [".."]
  else place.dropLast

/-- The largest number of bytes in a step of a path. -/
def stepLimit : Nat := 255

/-- The largest number of bytes in a path. -/
def pathLimit : Nat := 4095

/-- Follow the steps of a path from a directory. The result is a place whose parent is a
directory. -/
def follow (d : Disk) (path : String) : DiskPlace → List String → Except Failure DiskPlace
  | place, [] => .ok place
  | place, step :: rest =>
    match d.entry place with
    | .nothing => .error (.file (.missing path))
    | .file _ => .error (.file (.parentIsFile path))
    | .directory =>
      if step = "" ∨ step = "." then follow d path place rest
      else if step = ".." then follow d path (up place) rest
      else if stepLimit < step.utf8ByteSize then .error (.file (.nameTooLong path))
      else follow d path (place ++ [step]) rest

/-- The place that a path names. -/
def place (d : Disk) (path : String) : Except Failure DiskPlace :=
  if path.toList.contains '\x00' then .error .nulInPath
  else if path = "" then .error (.file (.missing path))
  else if pathLimit < path.utf8ByteSize then .error (.file (.nameTooLong path))
  else d.follow path (start path) (rawSteps path)

/-- The bytes of a file. -/
def read (d : Disk) (path : String) : Except Failure (List UInt8) :=
  match d.place path with
  | .error failure => .error failure
  | .ok place =>
    match d.entry place with
    | .file content => .ok content
    | .directory => .error (.file (.directory path))
    | .nothing => .error (.file (.missing path))

/-- The disk after a file has been written. -/
def write (d : Disk) (path : String) (content : List UInt8) : Except Failure Disk :=
  match d.place path with
  | .error failure => .error failure
  | .ok place =>
    match d.entry place with
    | .directory => .error (.file (.directory path))
    | .file _ | .nothing => .ok ⟨d.files.insert place content⟩

/-- Whether a place is below the working directory. -/
def isInside (place : DiskPlace) : Bool :=
  place.head?.all fun step => step != "/" && step != ".."

/-- The files below the working directory that are not as they were before, with their paths and
in the order of these. -/
def changes (before after : Disk) : List (String × List UInt8) :=
  let changed := after.files.entries.filter fun (place, content) =>
    isInside place && before.files.find? place != some content
  (changed.map fun (place, content) => (pathOf place, content)).mergeSort fun a b => a.1 ≤ b.1

end Disk

end TraceLens
