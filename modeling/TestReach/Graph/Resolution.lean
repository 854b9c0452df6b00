import TestReach.Graph.Basic
import TestReach.Package
import TestReach.PackageName
import TestReach.Table

/-!
# Resolving calls

What a call can lead to, by its shape and the names that are bound in its file. A name of the
package or of a dot import leads to its function. A name behind a package leads to that package's
function; where no file of the package was read, the function is taken to exist. A call on any
other value leads to every method of the name, and a call of a value to every function that is used
as a value.
-/

namespace TestReach

def predeclared : List String :=
  ["any", "append", "bool", "byte", "cap", "clear", "close", "comparable", "complex", "complex128",
    "complex64", "copy", "delete", "error", "float32", "float64", "imag", "int", "int16", "int32",
    "int64", "int8", "len", "make", "max", "min", "new", "panic", "print", "println", "real",
    "recover", "rune", "string", "uint", "uint16", "uint32", "uint64", "uint8", "uintptr"]

/-- The names of packages by their import paths. A later package counts, and one without a name
does not. -/
def packageNames (packages : List Package) : Table String String :=
  .ofList ((packages.filter fun p => p.name != "").map fun p => (p.importPath, p.name))

def parsedPackages (packages : List Package) : Table String Package :=
  .ofList ((packages.filter Package.isParsed).map fun p => (p.importPath, p))

structure Scope where
  paths : Table String String
  dotImports : List String

def boundName (names : Table String String) (i : Source.Import) : String :=
  match i.alias? with
  | some name => name
  | none => (names.get? i.path).getD (PackageName.ofPath i.path)

def Scope.of (names : Table String String) (imports : List Source.Import) : Scope :=
  let named := imports.filter fun i => !i.isBlank && !i.isDot
  { paths := .ofList (named.map fun i => (boundName names i, i.path))
    dotImports := (imports.filter Source.Import.isDot).map Source.Import.path }

/-- The node that a bare name leads to: that of the package's function, or of the first dot import's
that has one. -/
def Scope.bare? (scope : Scope) (g : CallGraph) (package name : String) : Option Nat :=
  (g.find? ⟨package, name⟩).or
    (scope.dotImports.findSome? fun path => g.find? ⟨path, name⟩)

/-- What all calls are resolved against: the numbers of the methods with a name, one for each
declaration, and what the packages are called. -/
structure Declared where
  methods : Table String (List Nat)
  names : Table String String
  parsed : Table String Package

def Declared.methodsNamed (d : Declared) (name : String) : List Nat :=
  (d.methods.get? name).getD []

inductive Target
  | node (i : Nat)
  | unread (f : Function)
  | methods (name : String)
  | values
  | nowhere
deriving DecidableEq, Repr

def Declared.onValue (d : Declared) (name : String) : Target :=
  if (d.methods.get? name).isSome then .methods name else .values

def Declared.target (d : Declared) (g : CallGraph) (package : Package) (scope : Scope) :
    Source.Callee → Target
  | .bare name =>
    match scope.bare? g package.importPath name with
    | some i => .node i
    | none =>
      if predeclared.contains name || package.declaresType name then .nowhere else .values
  | .qualified qualifier name =>
    match scope.paths.get? qualifier with
    | none => d.onValue name
    | some path =>
      match g.find? ⟨path, name⟩ with
      | some i => .node i
      | none =>
        match d.parsed.get? path with
        | none => .unread ⟨path, name⟩
        | some owner => if owner.declaresType name then .nowhere else .values
  | .method name => d.onValue name
  | .computed => .values

def Declared.valuesOf (d : Declared) (g : CallGraph) (package : Package) (scope : Scope) :
    Source.Callee → List Nat
  | .bare name => (scope.bare? g package.importPath name).toList
  | .qualified qualifier name =>
    match scope.paths.get? qualifier with
    | some path => (g.find? ⟨path, name⟩).toList
    | none => d.methodsNamed name
  | .method name => d.methodsNamed name
  | .computed => []

end TestReach
