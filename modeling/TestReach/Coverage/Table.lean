import TestReach.Coverage.Row
import TestReach.Decimal.Fixed
import TestReach.Json.Value

/-!
# Written reports

A report as a table with aligned columns, as a file with a line for each row, and as JSON.
-/

namespace TestReach.Coverage

def percentText (places : Nat) (x : Float) : String := Decimal.fixed places x ++ "%"

def totalLine (report : Report) : String := "Total: " ++ percentText 2 report.total ++ "\n"

/-- The width of a column in bytes: that of its widest cell or its title, and two more. -/
def columnWidth (title : String) (cells : List String) : Nat :=
  cells.foldl (fun width cell => max width cell.utf8ByteSize) title.utf8ByteSize + 2

def pad (width : Nat) (cell : String) : String :=
  cell ++ String.ofList (List.replicate (width - cell.length) ' ')

structure Cells where
  path : String
  function : String
  percent : String

def Cells.title : Cells := ⟨"PATH", "FUNCTION", "COVERAGE"⟩

def Row.cells (row : Row) : Cells := ⟨row.path, row.function, percentText 1 row.percent⟩

structure Widths where
  path : Nat
  function : Nat
  percent : Nat

def Widths.of (rows : List Row) : Widths where
  path := columnWidth Cells.title.path (rows.map fun row => row.cells.path)
  function := columnWidth Cells.title.function (rows.map fun row => row.cells.function)
  percent := columnWidth Cells.title.percent (rows.map fun row => row.cells.percent)

def Cells.line (widths : Widths) (cells : Cells) : String :=
  pad widths.path cells.path ++ " " ++ pad widths.function cells.function ++ " " ++
    pad widths.percent cells.percent

def Report.table (report : Report) : String :=
  let widths := Widths.of report.rows
  let title := Cells.title.line widths
  let rule := String.ofList (List.replicate title.utf8ByteSize '-')
  title ++ "\n" ++ rule ++ "\n" ++
    String.join (report.rows.map fun row => row.cells.line widths ++ "\n") ++ totalLine report

def Row.fileLine (row : Row) : String :=
  row.function ++ "\t\t" ++ row.path ++ "\t\t" ++ percentText 2 row.percent ++ "\n"

def Report.file (report : Report) : String :=
  String.join (report.rows.map Row.fileLine) ++ totalLine report

def Row.toJson (row : Row) : Json :=
  .ofMembers ([("path", .text row.path), ("function", .text row.function),
      ("percent", .number (.float row.percent))] ++
    Json.member? "weight" (row.weight?.map fun weight => .number (.natural weight)))

def Report.members (report : Report) : List (String × Json) :=
  [("coverages", .array (report.rows.map Row.toJson)),
    ("approx_total", .number (.float report.total))]

def Report.toJson (report : Report) : Json := .ofMembers report.members

def weight? (j : Json) : Option Nat :=
  j.asNatural?.bind fun n => if n < Nat.pow 2 32 then some n else none

def Row.ofJson? (j : Json) : Option Row :=
  match j.fields? ["path", "function", "percent", "weight"] with
  | some [path, function, percent, weight] => do
    return {
      path := ← Json.required? Json.asText? path
      function := ← Json.required? Json.asText? function
      percent := ← Json.required? Json.asFloat? percent
      weight? := ← Json.optional? none (Json.asNullable? Coverage.weight?) weight }
  | _ => none

def Report.ofJson? (j : Json) : Option Report :=
  match j.fields? ["coverages", "approx_total"] with
  | some [rows, total] => do
    return {
      rows := ← Json.required? (Json.asListOf? Row.ofJson?) rows
      total := ← Json.required? Json.asFloat? total }
  | _ => none

end TestReach.Coverage
