import TestReach.Loader
import TestReach.Loader.Record
import TestReach.Source.Parsed
import TestReach.Text.Path

/-!
# Packages of a listing

The files of root packages are read, and those of every package that shares a module with one. A
root with external test files comes with a package of these in front of it.
-/

namespace TestReach

variable {m : Type → Type} [Monad m] [Source.Parser]

structure ReadFiles where
  files : List Source.File
  errors : List String

/-- The files of a directory. A file with a syntax error is told of; one that cannot be read ends
it all. -/
def readFiles (read : String → m (Except FileFault String)) (directory : String) :
    List String → m (Except Failure ReadFiles)
  | [] => pure (.ok ⟨[], []⟩)
  | name :: names => do
    let path := Text.Path.join directory name
    match ← read path with
    | .error fault => return .error (.reading path fault)
    | .ok source =>
      let first : ReadFiles :=
        match Source.File.parse path source with
        | .ok file => ⟨[file], []⟩
        | .error e => ⟨[], [e.message]⟩
      match ← readFiles read directory names with
      | .error e => return .error e
      | .ok rest => return .ok ⟨first.files ++ rest.files, first.errors ++ rest.errors⟩

namespace Record

def rootModules (records : List Record) : List String :=
  (records.filter isRoot).filterMap module?

def isParsed (modules : List String) (r : Record) : Bool :=
  r.isRoot || (r.module?.map modules.contains).getD false

/-- The files of the package itself, with its tests if it is a root. -/
def ownFiles (r : Record) : List String :=
  r.goFiles ++ r.cgoFiles ++ if r.isRoot then r.testFiles else []

def ownErrors (r : Record) : List String :=
  (r.error?.toList ++ r.dependencyErrors).map ListedError.message

def package (r : Record) (own : ReadFiles) : Package where
  importPath := r.importPath
  name := r.name
  directory := r.directory
  module? := r.module?
  standard := r.standard
  dependencyOnly := r.dependencyOnly
  externalTest := false
  files := Source.numbered own.files
  errors := r.ownErrors ++ own.errors

def testPackage (r : Record) (tests : ReadFiles) : Package where
  importPath := r.importPath ++ "_test"
  name := r.name ++ "_test"
  directory := r.directory
  module? := r.module?
  standard := false
  dependencyOnly := false
  externalTest := true
  files := Source.numbered tests.files
  errors := tests.errors

def packages (read : String → m (Except FileFault String)) (modules : List String) (r : Record) :
    m (Except Failure (List Package)) := do
  if !r.isParsed modules then return .ok [r.package ⟨[], []⟩]
  match ← readFiles read r.directory r.ownFiles with
  | .error e => return .error e
  | .ok own =>
    if !r.isRoot || r.externalTestFiles.isEmpty then return .ok [r.package own]
    match ← readFiles read r.directory r.externalTestFiles with
    | .error e => return .error e
    | .ok tests => return .ok [r.testPackage tests, r.package own]

def allPackages (read : String → m (Except FileFault String)) (modules : List String) :
    List Record → m (Except Failure (List Package))
  | [] => pure (.ok [])
  | r :: records => do
    match ← r.packages read modules with
    | .error e => return .error e
    | .ok first =>
      match ← allPackages read modules records with
      | .error e => return .error e
      | .ok rest => return .ok (first ++ rest)

def assemble (read : String → m (Except FileFault String)) (records : List Record) :
    m (Except Failure (List Package)) :=
  allPackages read (rootModules records) records

end Record

end TestReach
