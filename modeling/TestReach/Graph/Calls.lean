import TestReach.Graph.Purge
import TestReach.Graph.Resolution

/-!
# The graph of packages

The call graph of all declared functions. A call that can lead to several functions goes to a
synthetic node with an edge to each of them: one node for each method name, and one for the
functions used as values.
-/

namespace TestReach.CallGraph

def declare (state : CallGraph × Table String (List Nat))
    (entry : Function × Source.Declaration) : CallGraph × Table String (List Nat) :=
  let (g, methods) := state
  let (f, d) := entry
  let (g, i) := g.add f false
  (g, if d.receiver?.isSome then methods.put d.name ((methods.get? d.name).getD [] ++ [i])
    else methods)

def declareAll (packages : List Package) : CallGraph × Table String (List Nat) :=
  (packages.flatMap Package.declared).foldl declare (empty, .empty)

def isHook (g : CallGraph) (i : Nat) : Bool :=
  ((g.node? i).map fun n => n.function.isBuiltIn).getD false

def addValues (g : CallGraph) (found : List Nat) (more : List Nat) : List Nat :=
  more.foldl (fun found i => if g.isHook i || found.contains i then found else found ++ [i]) found

def usedAsValues (packages : List Package) (g : CallGraph) (d : Declared) : List Nat :=
  packages.foldl
    (fun found package => package.files.foldl
      (fun found file =>
        let scope := Scope.of d.names file.imports
        file.references.foldl
          (fun found reference => addValues g found (d.valuesOf g package scope reference))
          found)
      found)
    []

/-- A graph in the making, with the synthetic nodes that it has so far. -/
structure Growth where
  graph : CallGraph
  methodStubs : Table String Nat
  valueStub? : Option Nat

/-- The path of synthetic nodes; no package has it. -/
def stubPackage : String := ""

def methodStub (name : String) : Function := ⟨stubPackage, "dispatch." ++ name⟩

def valueStub : Function := ⟨stubPackage, "dispatch.func-value"⟩

def addStub (g : CallGraph) (f : Function) (callees : List Nat) : CallGraph × Nat :=
  let (g, stub) := g.add f true
  (callees.foldl (fun g callee => g.connect stub callee 0) g, stub)

def Growth.connect (growth : Growth) (caller callee line : Nat) : Growth :=
  { growth with graph := growth.graph.connect caller callee line }

def Growth.addCall (growth : Growth) (d : Declared) (values : List Nat) (caller line : Nat) :
    Target → Growth
  | .nowhere => growth
  | .node callee => growth.connect caller callee line
  | .unread f =>
    let (g, callee) := growth.graph.add f false
    Growth.connect { growth with graph := g } caller callee line
  | .methods name =>
    match growth.methodStubs.get? name with
    | some stub => growth.connect caller stub line
    | none =>
      let (g, stub) := addStub growth.graph (methodStub name) (d.methodsNamed name)
      Growth.connect
        { growth with graph := g, methodStubs := growth.methodStubs.put name stub } caller stub line
  | .values =>
    if values.isEmpty then growth
    else
      match growth.valueStub? with
      | some stub => growth.connect caller stub line
      | none =>
        let (g, stub) := addStub growth.graph valueStub values
        Growth.connect { growth with graph := g, valueStub? := some stub } caller stub line

structure Call where
  package : Package
  scope : Scope
  caller : Function
  site : Source.CallSite

def callsOf (names : Table String String) (packages : List Package) : List Call :=
  packages.flatMap fun package => package.files.flatMap fun file =>
    let scope := Scope.of names file.imports
    file.declarations.flatMap fun d =>
      d.calls.map fun site => ⟨package, scope, d.function package.importPath, site⟩

def Growth.step (d : Declared) (values : List Nat) (growth : Growth) (call : Call) : Growth :=
  match growth.graph.find? call.caller with
  | none => growth
  | some caller =>
    growth.addCall d values caller call.site.line
      (d.target growth.graph call.package call.scope call.site.callee)

def ofPackages (packages : List Package) : CallGraph :=
  let (declared, methods) := declareAll packages
  let d : Declared := ⟨methods, packageNames packages, parsedPackages packages⟩
  let values := usedAsValues packages declared d
  ((callsOf d.names packages).foldl (Growth.step d values) ⟨declared, .empty, none⟩).graph

end TestReach.CallGraph
