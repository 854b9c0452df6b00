import TestReach.Json.Value
import TestReach.Text.Cut

/-!
# Listed packages

What a listing says of one package: where it is, which files it has, and what went wrong.
-/

namespace TestReach

structure ListedError where
  place : String
  text : String
deriving DecidableEq, Repr

def ListedError.message (e : ListedError) : String :=
  if e.place == "" then e.text else e.place ++ ": " ++ e.text

structure Record where
  directory : String
  importPath : String
  name : String
  standard : Bool
  dependencyOnly : Bool
  goFiles : List String
  cgoFiles : List String
  testFiles : List String
  externalTestFiles : List String
  testImports : List String
  externalTestImports : List String
  modulePath? : Option String
  error? : Option ListedError
  dependencyErrors : List ListedError
deriving DecidableEq, Repr

namespace Record

def blank : Record := ⟨"", "", "", false, false, [], [], [], [], [], [], none, none, []⟩

def module? (r : Record) : Option String := if r.standard then none else r.modulePath?

def isRoot (r : Record) : Bool := !r.dependencyOnly

def moduleOfJson? (j : Json) : Option String :=
  match j.fields? ["Path"] with
  | some [path] => Json.optional? "" Json.asText? path
  | _ => none

def errorOfJson? (j : Json) : Option ListedError :=
  match j.fields? ["Pos", "Err"] with
  | some [place, text] => do
    return ⟨← Json.optional? "" Json.asText? place, ← Json.optional? "" Json.asText? text⟩
  | _ => none

def fieldNames : List String :=
  ["Dir", "ImportPath", "Name", "Standard", "DepOnly", "GoFiles", "CgoFiles", "TestGoFiles",
    "XTestGoFiles", "TestImports", "XTestImports", "Module", "Error", "DepsErrors"]

def ofJson? (j : Json) : Option Record :=
  match j.fields? fieldNames with
  | some [directory, importPath, name, standard, dependencyOnly, goFiles, cgoFiles, testFiles,
      externalTestFiles, testImports, externalTestImports, module, error, dependencyErrors] => do
    let text := Json.optional? "" Json.asText?
    let flag := Json.optional? false Json.asBool?
    let texts := Json.optional? [] (Json.asListOf? Json.asText?)
    return {
      directory := ← text directory
      importPath := ← text importPath
      name := ← text name
      standard := ← flag standard
      dependencyOnly := ← flag dependencyOnly
      goFiles := ← texts goFiles
      cgoFiles := ← texts cgoFiles
      testFiles := ← texts testFiles
      externalTestFiles := ← texts externalTestFiles
      testImports := ← texts testImports
      externalTestImports := ← texts externalTestImports
      modulePath? := ← Json.optional? none (Json.asNullable? moduleOfJson?) module
      error? := ← Json.optional? none (Json.asNullable? errorOfJson?) error
      dependencyErrors := ← Json.optional? [] (Json.asListOf? errorOfJson?) dependencyErrors }
  | _ => none

end Record

end TestReach
