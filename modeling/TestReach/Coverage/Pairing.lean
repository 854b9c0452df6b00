import TestReach.Coverage.Row
import TestReach.Decimal.Reading
import TestReach.Dependency
import TestReach.Settings

/-!
# Pairing rows with dependencies

A row is kept if it can be paired with a dependency: one with its name, in the package that owns the
row's file, or in a package whose path stands in the row's. Of several the one whose declaration
spans the row's line is taken, else the first. The row takes the weight of that dependency.
-/

namespace TestReach.Coverage

/-- A line number: digits, with at most a plus before them, below two to the 64th. -/
def lineNumber? (cs : List Char) : Option Nat :=
  let digits := (Text.behind? ['+'] cs).getD cs
  if digits.isEmpty || !digits.all Decimal.isDigit then none
  else
    let n := Decimal.digitsValue digits
    if n < Nat.pow 2 64 then some n else none

def location (path : String) : String × Option Nat :=
  let trimmed := (Text.before? [':'] path.toList).getD path.toList
  match Text.cutLast? [':'] trimmed with
  | some (file, line) =>
    match lineNumber? line with
    | some n => (String.ofList file, some n)
    | none => (String.ofList trimmed, none)
  | none => (String.ofList trimmed, none)

def namesFunction (row : Row) (d : Dependency) : Bool :=
  row.function == d.function.shortName || row.function == d.function.name

def spans (d : Dependency) (file : String) (line? : Option Nat) : Bool :=
  match d.declaration?, line? with
  | some declaration, some line =>
    declaration.line ≤ line && line ≤ declaration.endLine &&
      declaration.fileName? == Text.Path.fileName? file
  | _, _ => false

def belongs (files : FileIndex) (rule : MatchRule) (row : Row) (d : Dependency) : Bool :=
  match rule with
  | .ownership => files.packageOf? (location row.path).1 == some d.function.package
  | .substring => Text.holds d.function.package.toList row.path.toList

def candidates (files : FileIndex) (rule : MatchRule) (ds : List Dependency) (row : Row) :
    List Dependency :=
  ds.filter fun d => namesFunction row d && belongs files rule row d

def partner? (files : FileIndex) (rule : MatchRule) (ds : List Dependency) (row : Row) :
    Option Dependency :=
  let (file, line?) := location row.path
  let found := candidates files rule ds row
  (found.find? fun d => spans d file line?).or found.head?

def pair (files : FileIndex) (rule : MatchRule) (ds : List Dependency) (rows : List Row) :
    List Row :=
  rows.filterMap fun row =>
    (partner? files rule ds row).map fun d => { row with weight? := some d.weight }

end TestReach.Coverage
