import TestReach.Text.Cut

/-!
# Paths

A path is a text with parts between slashes. Empty parts and parts `.` are passed over, except a
first one: an empty first part is the root, and a first `.` stands for the directory itself.
-/

namespace TestReach.Text.Path

def parts (path : String) : List (List Char) := splitAt '/' path.toList

def isAbsolute (path : String) : Bool := path.toList.head? == some '/'

def isPassed (part : List Char) : Bool := part.isEmpty || part == ['.']

/-- What tells a path apart from others: its parts but those that are passed over, and the first one
if it is the root or the directory itself. -/
def components (path : String) : List (List Char) :=
  match parts path with
  | [] | [[]] => []
  | first :: rest => first :: rest.filter fun part => !isPassed part

/-- The parts without those at the end that are passed over. A first part that says where the path
starts stays. -/
def trimParts : List (List Char) → List (List Char)
  | [] => []
  | first :: rest =>
    let kept := (rest.reverse.dropWhile isPassed).reverse
    if kept.isEmpty then (if first == ['.'] then [first] else if first.isEmpty then [] else [first])
    else first :: kept

def fileName? (path : String) : Option String :=
  match ((parts path).filter fun part => !isPassed part).getLast? with
  | some part => if part = ['.', '.'] then none else some (String.ofList part)
  | none => none

def ofParts (absolute : Bool) (kept : List (List Char)) : String :=
  if absolute then
    if kept.length ≤ 1 then "/" else String.ofList (joinWith ['/'] kept)
  else String.ofList (joinWith ['/'] kept)

def parent? (path : String) : Option String :=
  let absolute := isAbsolute path
  let shown := if absolute then (parts path).drop 1 else parts path
  let trimmed : List (List Char) :=
    if absolute then (shown.reverse.dropWhile isPassed).reverse else trimParts shown
  match trimmed.reverse with
  | [] => none
  | _ :: before =>
    let rest :=
      if absolute then (before.dropWhile isPassed).reverse else trimParts before.reverse
    some (ofParts absolute (if absolute then [] :: rest else rest))

def join (directory path : String) : String :=
  if isAbsolute path then path
  else if directory.toList.isEmpty || directory.toList.getLast? == some '/' then directory ++ path
  else directory ++ "/" ++ path

def extension? (path : String) : Option String :=
  match fileName? path with
  | none => none
  | some name =>
    match cutLast? ['.'] name.toList with
    | none => none
    | some (before, behind) => if before.isEmpty then none else some (String.ofList behind)

end TestReach.Text.Path
