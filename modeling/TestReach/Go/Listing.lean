import TestReach.Go.Host
import TestReach.Json.Reading
import TestReach.Loader.Assembly

/-!
# Listings of the go command

A loader that lists packages with the go command, or that reads a recorded listing in its place.
What only the tests of a root import is listed by a second call.
-/

namespace TestReach.Go

variable {m : Type → Type} [Monad m] [Source.Parser]

structure Lister (m : Type → Type) where
  host : Host m
  program : String
  recording? : Option String

namespace Lister

def decode (octets : List Char) : Except Failure (List Record) :=
  match (Json.streamOfOctets? octets).bind fun values => values.mapM Record.ofJson? with
  | some records => .ok records
  | none => .error (.loader "failed to decode go list output")

def command (lister : Lister m) (locator : Locator) (patterns : List String) (withImports : Bool) :
    Command where
  program := lister.program
  arguments := ["list", "-e", "-json"] ++ (if withImports then ["-deps"] else []) ++ patterns
  directory? := locator.directory?

def list (lister : Lister m) (locator : Locator) (patterns : List String) (withImports : Bool) :
    m (Except Failure (List Record)) := do
  match lister.recording? with
  | some path =>
    match ← lister.host.read path with
    | .error fault => return .error (.reading path fault)
    | .ok octets => return decode octets
  | none =>
    match ← lister.host.run (lister.command locator patterns withImports) with
    | .error fault =>
      return .error (.loader ("failed to spawn " ++ lister.program ++ ": " ++ fault.message))
    | .ok outcome =>
      if outcome.status.isSuccess then return decode outcome.output
      else
        return .error (.loader ("go list exited with " ++ outcome.status.display ++ ": " ++
          Host.tail outcome.errors))

def insertText (s : String) : List String → List String
  | [] => [s]
  | t :: ts => if s = t then t :: ts else if s < t then s :: t :: ts else t :: insertText s ts

def missing (records : List Record) : List String :=
  let known := records.map Record.importPath
  let imports := (records.filter Record.isRoot).flatMap fun r =>
    r.testImports ++ r.externalTestImports
  (imports.filter fun path => !known.contains path).foldl (fun set path => insertText path set) []

/-- The records with those of a second listing that are of new packages; the latter are no
roots. -/
def addNew (records : List Record) : List Record → List Record
  | [] => records
  | r :: more =>
    if (records.map Record.importPath).contains r.importPath then addNew records more
    else addNew (records ++ [{ r with dependencyOnly := true }]) more

def load (lister : Lister m) (locator : Locator) : m (Except Failure (List Package)) := do
  match ← lister.list locator [locator.pattern] true with
  | .error e => return .error e
  | .ok records =>
    let imports := missing records
    if imports.isEmpty then Record.assemble lister.host.readText records
    else
      match ← lister.list locator imports true with
      | .error e => return .error e
      | .ok more => Record.assemble lister.host.readText (addNew records more)

def lookUp (lister : Lister m) (locator : Locator) (package : String) :
    m (Except Failure (Option Record)) := do
  match ← lister.list locator [package] false with
  | .error e => return .error e
  | .ok records =>
    return .ok (records.find? fun r => r.importPath == package && r.error?.isNone)

/-- The module of a package; for an external test package that of the package it tests. -/
def moduleOf (lister : Lister m) (locator : Locator) (package : String) :
    m (Except Failure (Option String)) := do
  match ← lister.lookUp locator package with
  | .error e => return .error e
  | .ok (some r) => return .ok r.module?
  | .ok none =>
    match Text.before? "_test".toList package.toList with
    | none => return .ok none
    | some tested =>
      match ← lister.lookUp locator (String.ofList tested) with
      | .error e => return .error e
      | .ok found => return .ok (found.bind Record.module?)

def loader (lister : Lister m) : Loader m where
  name := "go-list"
  load := lister.load
  moduleOf := lister.moduleOf

end Lister

end TestReach.Go
