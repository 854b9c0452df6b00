import TestReach.Loader.Assembly
import TestReach.Table

/-!
# Packages in memory

A loader over packages whose sources are given. Every package is part of each load, and the pattern
tells which of them are roots: the package of that path, or all packages below a path.
-/

namespace TestReach

structure Memory where
  records : List Record
  sources : Table (List (List Char)) String
  failing : List String

namespace Memory

def empty : Memory := ⟨[], .empty, []⟩

def directoryOf (importPath : String) : String := Text.Path.join "/memory" importPath

def lastElement (importPath : String) : String :=
  match (Text.splitAt '/' importPath.toList).getLast? with
  | some element => String.ofList element
  | none => importPath

def addSources (memory : Memory) (importPath : String) (files : List (String × String)) : Memory :=
  { memory with
    sources := files.foldl
      (fun sources (name, source) =>
        sources.put (Text.Path.components (Text.Path.join (directoryOf importPath) name)) source)
      memory.sources }

def addPackage (memory : Memory) (module? : Option String) (importPath : String)
    (files : List (String × String)) : Memory :=
  let record : Record := {
    directory := directoryOf importPath
    importPath := importPath
    name := lastElement importPath
    standard := false
    dependencyOnly := false
    goFiles := files.map (·.1)
    cgoFiles := []
    testFiles := []
    externalTestFiles := []
    testImports := []
    externalTestImports := []
    modulePath? := module?
    error? := none
    dependencyErrors := [] }
  let memory := memory.addSources importPath files
  { memory with records := memory.records ++ [record] }

def addStandard (memory : Memory) (importPath : String) : Memory :=
  let record : Record :=
    { Record.blank with
      directory := directoryOf importPath
      importPath := importPath
      name := lastElement importPath
      standard := true }
  { memory with records := memory.records ++ [record] }

def changeFirst (importPath : String) (change : Record → Record) : List Record → List Record
  | [] => []
  | r :: records =>
    if r.importPath = importPath then change r :: records
    else r :: changeFirst importPath change records

def change (memory : Memory) (importPath : String) (change : Record → Record) : Memory :=
  { memory with records := changeFirst importPath change memory.records }

def addTests (memory : Memory) (importPath : String) (files : List (String × String)) : Memory :=
  (memory.addSources importPath files).change importPath fun r =>
    { r with testFiles := r.testFiles ++ files.map (·.1) }

def addExternalTests (memory : Memory) (importPath : String) (files : List (String × String)) :
    Memory :=
  (memory.addSources importPath files).change importPath fun r =>
    { r with externalTestFiles := r.externalTestFiles ++ files.map (·.1) }

def addError (memory : Memory) (importPath text : String) : Memory :=
  memory.change importPath fun r => { r with error? := some ⟨"", text⟩ }

def addFailing (memory : Memory) (importPath : String) : Memory :=
  { memory with failing := importPath :: memory.failing }

/-- Whether a pattern means a package: by its path, or by that of a package above it. -/
def isMatch (pattern importPath : String) : Bool :=
  match Text.before? "/...".toList pattern.toList with
  | some above =>
    match Text.behind? above importPath.toList with
    | some rest => rest.isEmpty || rest.head? == some '/'
    | none => false
  | none => pattern == importPath

def read (memory : Memory) (path : String) : Except FileFault String :=
  match memory.sources.get? (Text.Path.components path) with
  | some source => .ok source
  | none => .error (.noSource path)

def load {m : Type → Type} [Monad m] [Source.Parser] (memory : Memory) (locator : Locator) :
    m (Except Failure (List Package)) :=
  if memory.records.any fun r => isMatch locator.pattern r.importPath then
    Record.assemble (fun path => pure (memory.read path))
      (memory.records.map fun r =>
        { r with dependencyOnly := !isMatch locator.pattern r.importPath })
  else pure (.ok [])

def find? (memory : Memory) (importPath : String) : Option Record :=
  memory.records.find? fun r => r.importPath = importPath

def findTested? (memory : Memory) (importPath : String) : Option Record :=
  (memory.find? importPath).or
    ((Text.before? "_test".toList importPath.toList).bind fun tested =>
      memory.find? (String.ofList tested))

def moduleOf (memory : Memory) (package : String) : Except Failure (Option String) :=
  if memory.failing.contains package then
    .error (.loader ("module query for " ++ package ++ " failed"))
  else .ok ((memory.findTested? package).bind Record.module?)

def loader {m : Type → Type} [Monad m] [Source.Parser] (memory : Memory) : Loader m where
  name := "memory"
  load := memory.load
  moduleOf := fun _ package => pure (memory.moduleOf package)

end Memory

end TestReach
