import TestReach.FileIndex
import TestReach.Graph.Calls
import TestReach.ModuleCache

/-!
# Datasets

All that the later phases need of one load: the call graph without its synthetic nodes, the targets
with their nodes, the declarations of all functions, and the owners of all files.
-/

namespace TestReach

structure Dataset where
  graph : CallGraph
  targets : List (Function × Nat)
  declarations : Table Function Source.Declaration
  files : FileIndex
deriving DecidableEq, Repr

namespace Dataset

def selected (packages : List Package) (isSelected : String → Bool) : List Function :=
  (packages.filter Package.isRoot).flatMap fun p =>
    (p.declared.filter fun (f, d) =>
      d.receiver?.isNone && !f.isBuiltIn && isSelected f.shortName).map (·.1)

def withNode (g : CallGraph) (f : Function) : Except Failure (Function × Nat) :=
  match g.find? f with
  | some i => .ok (f, i)
  | none => .error (.targetNotFound f)

def withNodes (g : CallGraph) (functions : List Function) :
    Except Failure (List (Function × Nat)) :=
  (Function.sorted functions).mapM (withNode g)

/-- The declarations of all functions but hooks; of two of one function the later one counts. -/
def declarationsOf (packages : List Package) : Table Function Source.Declaration :=
  .ofList ((packages.flatMap Package.declared).filter fun (f, _) => !f.isBuiltIn)

def ofPackages (packages : List Package) (isSelected : String → Bool) :
    Except Failure Dataset := do
  let graph := (CallGraph.ofPackages packages).purge
  let targets ← withNodes graph (selected packages isSelected)
  return {
    graph := graph
    targets := targets
    declarations := declarationsOf packages
    files := .ofPackages packages }

def diagnostics (packages : List Package) : List Diagnostic :=
  (packages.filter fun p => !p.errors.isEmpty).map fun p => ⟨p.importPath, p.errors⟩

def seedAll (cache : ModuleCache) (packages : List Package) : ModuleCache :=
  packages.foldl (fun cache p => cache.seed p.importPath p.module?) cache

/-- The dataset of the packages at a locator. A package with diagnostics ends it before any verdict
is noted. -/
def build {m : Type → Type} [Monad m] (loader : Loader m) (locator : Locator)
    (isSelected : String → Bool) : Analysis m Dataset := do
  let packages ← Analysis.call (loader.load locator)
  if packages.isEmpty then throw (.noPackages locator.display)
  let found := diagnostics packages
  if !found.isEmpty then throw (.packages found)
  modifyThe ModuleCache fun cache => seedAll cache packages
  Analysis.ofExcept (ofPackages packages isSelected)

end Dataset

end TestReach
