import TestReach.Failure
import TestReach.Text.Octets
import TestReach.Text.Path

/-!
# Disks

The files that a run sees, as a value: a tree of directories and files below a home directory.
-/

namespace TestReach

inductive Disk.Entry
  | directory
  | file (octets : List Char)
deriving DecidableEq, Repr

structure Disk where
  home : String
  entries : List (List String × Disk.Entry)
deriving Repr

namespace Disk

def empty (home : String) : Disk := ⟨home, []⟩

def lookup? (disk : Disk) (path : List String) : Option Entry :=
  if path.isEmpty then some .directory
  else (disk.entries.find? fun (p, _) => p == path).map (·.2)

def put (disk : Disk) (path : List String) (entry : Entry) : Disk :=
  { disk with entries := (path, entry) :: disk.entries.filter fun (p, _) => p != path }

/-- The elements of a path from the home directory, blanks and points included; an absolute path
leads there only if it begins with the home directory's own. -/
def elements? (disk : Disk) (path : String) : Option (List String) :=
  let parts (cs : List Char) : List String := (Text.splitAt '/' cs).map String.ofList
  if Text.Path.isAbsolute path then
    match Text.behind? disk.home.toList path.toList with
    | some [] => some []
    | some ('/' :: rest) => some (parts rest)
    | _ => none
  else some (parts path.toList)

def walk (disk : Disk) (place : List String) : List String → Except FileFault (List String)
  | [] => .ok place
  | element :: rest =>
    match disk.lookup? place with
    | none => .error .notFound
    | some (.file _) => .error .notDirectory
    | some .directory =>
      if element == "" || element == "." then walk disk place rest
      else if element == ".." then
        if place.isEmpty then .error .notFound else walk disk place.dropLast rest
      else walk disk (place ++ [element]) rest

def resolve (disk : Disk) (path : String) : Except FileFault (List String) :=
  if path == "" then .error .notFound
  else
    match disk.elements? path with
    | some elements => disk.walk [] elements
    | none => .error .notFound

def read (disk : Disk) (path : String) : Except FileFault (List Char) := do
  match disk.lookup? (← disk.resolve path) with
  | some (.file octets) => return octets
  | some .directory => throw .isDirectory
  | none => throw .notFound

def directory? (disk : Disk) (path : String) : Option String :=
  match disk.resolve path with
  | .ok place =>
    if disk.lookup? place = some .directory then some (joinTexts "/" (disk.home :: place)) else none
  | .error _ => none

def write (disk : Disk) (path : String) (octets : List Char) : Except FileFault Disk := do
  let place ← disk.resolve path
  match disk.lookup? place with
  | some .directory => throw .isDirectory
  | some (.file _) => return disk.put place (.file octets)
  | none =>
    match disk.lookup? place.dropLast with
    | some .directory => return disk.put place (.file octets)
    | some (.file _) => throw .notDirectory
    | none => throw .notFound

def withDirectories (disk : Disk) (path : List String) : Disk :=
  ((List.range path.length).map fun n => path.take (n + 1)).foldl
    (fun disk above => if (disk.lookup? above).isSome then disk else disk.put above .directory) disk

def plainElements (path : String) : List String :=
  ((Text.splitAt '/' path.toList).map String.ofList).filter fun element =>
    element != "" && element != "."

def withDirectory (disk : Disk) (path : String) : Disk := disk.withDirectories (plainElements path)

def withFile (disk : Disk) (path : String) (octets : List Char) : Disk :=
  let elements := plainElements path
  (disk.withDirectories elements.dropLast).put elements (.file octets)

end Disk

end TestReach
