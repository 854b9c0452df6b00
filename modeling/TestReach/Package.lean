import TestReach.Source.File

namespace TestReach

structure Package where
  importPath : String
  name : String
  directory : String
  module? : Option String
  standard : Bool
  /-- Whether it is there only because another package imports it. -/
  dependencyOnly : Bool
  externalTest : Bool
  files : List Source.File
  errors : List String
deriving DecidableEq, Repr, Inhabited

namespace Package

def isRoot (p : Package) : Bool := !p.dependencyOnly

def declarations (p : Package) : List Source.Declaration := p.files.flatMap Source.File.declarations

def declared (p : Package) : List (Function × Source.Declaration) :=
  p.declarations.map fun d => (d.function p.importPath, d)

def declaresType (p : Package) (name : String) : Bool :=
  p.files.any fun file => file.declaresType name

def isParsed (p : Package) : Bool := !p.files.isEmpty

end Package

end TestReach
