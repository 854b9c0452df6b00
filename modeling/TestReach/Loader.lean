import TestReach.Locator
import TestReach.Package

namespace TestReach

structure Loader (m : Type → Type) where
  name : String
  load : Locator → m (Except Failure (List Package))
  /-- The path of the module of a package; none for a package of the standard library or of no
  known module. -/
  moduleOf : Locator → String → m (Except Failure (Option String))

end TestReach
