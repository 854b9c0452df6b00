import TestReach.Settings

/-!
# Locators

Where the packages of a run are found: by a pattern, read in a directory or in the current one.
-/

namespace TestReach

structure Locator where
  pattern : String
  directory? : Option String
deriving DecidableEq, Repr

namespace Locator

/-- A path that names a directory stands for the package in it; any other is a pattern. -/
def ofPath (path : String) (directory? : Option String) : Locator :=
  match directory? with
  | some directory => ⟨".", some directory⟩
  | none => ⟨path, none⟩

def display (locator : Locator) : String := locator.directory?.getD locator.pattern

end Locator

structure Invocation where
  locator : Locator
  tests : String
  profile : String
  mode : CoverMode
  packages : List String
  more : List String
deriving DecidableEq, Repr

def Invocation.arguments (i : Invocation) : List String :=
  ["test", "-run", i.tests, "-coverprofile=" ++ i.profile, "-covermode=" ++ i.mode.name,
    "-coverpkg=" ++ joinTexts "," i.packages] ++ i.more ++ [i.locator.pattern]

end TestReach
