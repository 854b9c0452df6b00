import TestReach.Text.Cut

namespace TestReach.PackageName

def isMajorVersion (element : List Char) : Bool :=
  match element with
  | 'v' :: digits => !digits.isEmpty && digits.all Char.isDigit
  | _ => false

def lastElement (path : List Char) : List Char :=
  match (Text.splitAt '/' path).reverse with
  | [] => path
  | [last] => last
  | last :: previous :: _ => if isMajorVersion last then previous else last

def withoutVersion (element : List Char) : List Char :=
  match Text.cutLast? ['.'] element with
  | some (stem, version) => if isMajorVersion version then stem else element
  | none => element

/-- The name that a path suggests: its last element without versions and without `go-` in front,
with underscores for hyphens. -/
def ofPath (path : String) : String :=
  let element := withoutVersion (lastElement path.toList)
  let stem := (Text.behind? "go-".toList element).getD element
  String.ofList (stem.map fun c => if c == '-' then '_' else c)

end TestReach.PackageName
