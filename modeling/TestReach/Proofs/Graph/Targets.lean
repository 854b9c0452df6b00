import TestReach.Graph.Calls
import Mathlib.Data.List.Dedup

/-!
# Where each call leads

The functions that a call can lead to, told from the packages alone: no graph is asked, no node
stands between a call and what it leads to, and no call depends on those before it.
-/

namespace TestReach

namespace Table

variable {κ α : Type} [DecidableEq κ]

theorem get?_ofList_of_nodup {pairs : List (κ × α)} (nodup : (pairs.map Prod.fst).Nodup) {key : κ}
    {value : α} (member : (key, value) ∈ pairs) : (ofList pairs).get? key = some value := by
  cases found : (ofList pairs).get? key with
  | none => exact absurd rfl (get?_ofList_eq_none_iff.1 found _ member)
  | some other =>
    have same := List.inj_on_of_nodup_map nodup (mem_of_get?_ofList found) member rfl
    rw [(Prod.mk.inj same).2]

end Table

namespace Packages

variable (packages : List Package)

def functions : List Function := (packages.flatMap Package.declared).map Prod.fst

def isMethodNamed (name : String) (entry : Function × Source.Declaration) : Bool :=
  entry.2.receiver?.isSome && entry.2.name == name

def methodsNamed (name : String) : List Function :=
  ((packages.flatMap Package.declared).filter (isMethodNamed name)).map Prod.fst

def isRead (path : String) : Bool := packages.any fun p => p.importPath == path && p.isParsed

def hasType (path name : String) : Bool :=
  packages.any fun p => p.importPath == path && p.declaresType name

def declared? (f : Function) : Option Function :=
  if f ∈ functions packages then some f else none

/-- The function that a bare name stands for: the package's own, or that of the first dot import
that declares one. -/
def bare? (path : String) (scope : Scope) (name : String) : Option Function :=
  (path :: scope.dotImports).findSome? fun path => declared? packages ⟨path, name⟩

/-- The functions that a name used as a value stands for. -/
def denoted (path : String) (scope : Scope) : Source.Callee → List Function
  | .bare name => (bare? packages path scope name).toList
  | .qualified qualifier name =>
    match scope.paths.get? qualifier with
    | some path => (declared? packages ⟨path, name⟩).toList
    | none => methodsNamed packages name
  | .method name => methodsNamed packages name
  | .computed => []

def used : List Function :=
  ((packages.flatMap fun p => p.files.flatMap fun file => file.references.flatMap
    (denoted packages p.importPath (.of (packageNames packages) file.imports))).filter
      fun f => !f.isBuiltIn).dedup

/-- A name behind a value: each method of that name, or else each function used as a value. -/
def onValue (name : String) : List Function :=
  if methodsNamed packages name = [] then used packages else methodsNamed packages name

/-- The functions that a call in a file of a package leads to. -/
def resolve (package : Package) (scope : Scope) : Source.Callee → List Function
  | .bare name =>
    match bare? packages package.importPath scope name with
    | some f => [f]
    | none =>
      if predeclared.contains name || package.declaresType name then [] else used packages
  | .qualified qualifier name =>
    match scope.paths.get? qualifier with
    | none => onValue packages name
    | some path =>
      if ⟨path, name⟩ ∈ functions packages ∨ !isRead packages path then [⟨path, name⟩]
      else if hasType packages path name then [] else used packages
  | .method name => onValue packages name
  | .computed => used packages

/-- The function of a package without files that a call names. -/
def unreadOf (scope : Scope) : Source.Callee → List Function
  | .qualified qualifier name =>
    match scope.paths.get? qualifier with
    | some path => if isRead packages path then [] else [⟨path, name⟩]
    | none => []
  | _ => []

def unread : List Function :=
  (CallGraph.callsOf (packageNames packages) packages).flatMap fun call =>
    unreadOf packages call.scope call.site.callee

def led (call : CallGraph.Call) : List (Function × Function × Nat) :=
  (resolve packages call.package call.scope call.site.callee).map fun callee =>
    (call.caller, callee, call.site.line)

def calls : List (Function × Function × Nat) :=
  (CallGraph.callsOf (packageNames packages) packages).flatMap (led packages)

def bareName? : Source.Callee → Option String
  | .bare name => some name
  | _ => none

def isPlain (name : String) : Bool := name.toList.all fun c => c != '.' && c != '-'

/-- Paths tell packages apart, and a dot import is of a package with files. -/
structure Separate : Prop where
  distinct : (packages.map Package.importPath).Nodup
  nonempty : ∀ p ∈ packages, p.importPath ≠ ""
  dotted : ∀ p ∈ packages, ∀ file ∈ p.files, ∀ i ∈ file.imports, i.isDot = true →
    isRead packages i.path = true

structure Regular : Prop extends Separate packages where
  plain : ∀ p ∈ packages, ∀ d ∈ p.declarations, ∀ site ∈ d.calls,
    ∀ name ∈ site.callee.selected?, isPlain name = true

variable {packages}

theorem isRead_iff {path : String} :
    isRead packages path = true ↔ ∃ p ∈ packages, p.importPath = path ∧ p.isParsed = true := by
  simp [isRead]

theorem Regular.ne_empty (regular : Regular packages) {path : String}
    (read : isRead packages path = true) : path ≠ "" := by
  obtain ⟨p, member, rfl, -⟩ := isRead_iff.1 read
  exact regular.nonempty p member

theorem mem_functions {f : Function} :
    f ∈ functions packages ↔ ∃ p ∈ packages, ∃ d ∈ p.declarations, d.function p.importPath = f := by
  simp only [functions, Package.declared, List.map_flatMap, List.mem_flatMap, List.map_map,
    List.mem_map, Function.comp_apply]

@[simp] theorem package_function (d : Source.Declaration) (path : String) :
    (d.function path).package = path := by
  unfold Source.Declaration.function
  split <;> rfl

theorem package_of_mem_declared {p : Package} {f : Function} {d : Source.Declaration}
    (declared : (f, d) ∈ p.declared) : f.package = p.importPath := by
  obtain ⟨_, -, same⟩ := List.mem_map.1 declared
  rw [← (Prod.mk.inj same).1, package_function]

theorem ne_empty_of_mem_functions (nonempty : ∀ p ∈ packages, p.importPath ≠ "") {f : Function}
    (member : f ∈ functions packages) : f.package ≠ "" := by
  obtain ⟨p, listed, d, -, rfl⟩ := mem_functions.1 member
  rw [package_function]
  exact nonempty p listed

theorem mem_unreadOf {scope : Scope} {callee : Source.Callee} {f : Function}
    (member : f ∈ unreadOf packages scope callee) :
    isRead packages f.package = false ∧ f.name ∈ callee.selected? := by
  cases callee with
  | qualified qualifier name =>
    unfold unreadOf at member
    cases bound : scope.paths.get? qualifier with
    | none => simp [bound] at member
    | some path =>
      simp only [bound] at member
      split at member
      · cases member
      · rename_i outside
        rw [List.mem_singleton.1 member]
        exact ⟨by simpa using outside, rfl⟩
  | _ => cases member

theorem mem_callsOf {names : Table String String} {call : CallGraph.Call} :
    call ∈ CallGraph.callsOf names packages ↔ ∃ p ∈ packages, ∃ file ∈ p.files,
      ∃ d ∈ file.declarations, ∃ site ∈ d.calls,
        ⟨p, .of names file.imports, d.function p.importPath, site⟩ = call := by
  simp only [CallGraph.callsOf, List.mem_flatMap, List.mem_map]

theorem caller_mem_functions {names : Table String String} {call : CallGraph.Call}
    (member : call ∈ CallGraph.callsOf names packages) : call.caller ∈ functions packages := by
  obtain ⟨p, listed, file, there, d, declared, site, -, rfl⟩ := mem_callsOf.1 member
  exact mem_functions.2 ⟨p, listed, d, List.mem_flatMap.2 ⟨file, there, declared⟩, rfl⟩

theorem isRead_of_mem_callsOf {names : Table String String} {call : CallGraph.Call}
    (member : call ∈ CallGraph.callsOf names packages) :
    isRead packages call.package.importPath = true := by
  obtain ⟨p, listed, file, there, d, declared, site, called, rfl⟩ := mem_callsOf.1 member
  have some : p.files ≠ [] := List.ne_nil_of_mem there
  exact isRead_iff.2 ⟨p, listed, rfl, by simpa [Package.isParsed] using some⟩

theorem Regular.call (regular : Regular packages) {call : CallGraph.Call}
    (member : call ∈ CallGraph.callsOf (packageNames packages) packages) :
    call.caller ∈ functions packages ∧
      (∀ path ∈ call.package.importPath :: call.scope.dotImports, isRead packages path = true) ∧
      ∀ name ∈ call.site.callee.selected?, isPlain name = true := by
  have caller := caller_mem_functions member
  have own := isRead_of_mem_callsOf member
  obtain ⟨p, listed, file, there, d, declared, site, called, rfl⟩ := mem_callsOf.1 member
  have among : d ∈ p.declarations := List.mem_flatMap.2 ⟨file, there, declared⟩
  refine ⟨caller, ?_, regular.plain p listed d among site called⟩
  intro path member
  rcases List.mem_cons.1 member with rfl | dotted
  · exact own
  · simp only [Scope.of, List.mem_map, List.mem_filter] at dotted
    obtain ⟨i, ⟨imported, dot⟩, rfl⟩ := dotted
    exact regular.dotted p listed file there i imported dot

end Packages

end TestReach
