import TestReach.Package
import TestReach.Table
import TestReach.Text.Path

/-!
# Owners of files

Which package a file belongs to. A file is known by the path of its package with its name behind
it, as a summary prints it, and by its path on disk. External test files stand with the package that
they test.
-/

namespace TestReach

structure FileIndex where
  owners : Table String String
  externalTests : List String
deriving DecidableEq, Repr

namespace FileIndex

/-- The path that the files of a package are printed with: for an external test package that of the
package it tests. -/
def printedPath (p : Package) : String :=
  match Text.before? "_test".toList p.importPath.toList with
  | some tested => if p.externalTest then String.ofList tested else p.importPath
  | none => p.importPath

def keysOf (p : Package) (file : Source.File) : List String :=
  match Text.Path.fileName? file.path with
  | some name => [printedPath p ++ "/" ++ name, file.path]
  | none => []

def ofPackages (packages : List Package) : FileIndex where
  owners := .ofList (packages.flatMap fun p => p.files.flatMap fun file =>
    (keysOf p file).map fun key => (key, p.importPath))
  externalTests := (packages.filter Package.externalTest).map Package.importPath

def size (index : FileIndex) : Nat := index.owners.size

def owner? (index : FileIndex) (file : String) : Option String := index.owners.get? file

/-- The package of a file, or what stands before the file's name if nothing is known of it. -/
def packageOf? (index : FileIndex) (file : String) : Option String :=
  (index.owner? file).or ((Text.Path.parent? file).filter fun parent => parent != "")

def isExternalTest (index : FileIndex) (package : String) : Bool :=
  index.externalTests.contains package

end FileIndex

end TestReach
