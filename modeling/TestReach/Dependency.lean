import TestReach.FileIndex
import TestReach.Listing

namespace TestReach

structure Dependency where
  module : String
  function : Function
  node : Nat
  declaration? : Option Source.Declaration
  weight : Nat
deriving DecidableEq, Repr

namespace Dependency

def collapseFrom (seen : List Function) : List Dependency → List Dependency
  | [] => []
  | d :: ds =>
    if seen.contains d.function then collapseFrom seen ds
    else d :: collapseFrom (d.function :: seen) ds

def collapse (ds : List Dependency) : List Dependency := collapseFrom [] ds

def distinctFrom (seen : List String) : List String → List String
  | [] => []
  | s :: ss => if seen.contains s then distinctFrom seen ss else s :: distinctFrom (s :: seen) ss

/-- The packages to instrument: those of the dependencies, each once, without external tests. -/
def packages (ds : List Dependency) (files : FileIndex) : List String :=
  distinctFrom [] ((ds.map fun d => d.function.package).filter fun p => !files.isExternalTest p)

def listed (d : Dependency) : ListedDependency where
  function := d.function
  module := d.module
  weight := d.weight
  place? := d.declaration?.bind fun declaration =>
    declaration.fileName?.map fun name => name ++ ":" ++ toString declaration.line

end Dependency

end TestReach
