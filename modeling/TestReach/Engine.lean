import TestReach.Coverage.Pairing
import TestReach.Coverage.Summary
import TestReach.Coverage.Total
import TestReach.Extraction
import TestReach.Pattern.Compiler
import TestReach.Toolchain

/-!
# Runs

A run loads packages, extracts the dependencies of every target, runs the tests once with all
packages of the dependencies instrumented, and pairs the rows of the summary with the dependencies.
Between the phases it can be cancelled. The directory of the coverage profile is made for the tests
and removed behind them, however they end.
-/

namespace TestReach

structure Engine (m : Type → Type) where
  loader : Loader m
  toolchain : Toolchain m
  settings : Settings
  directory? : String → m (Option String)
  cancelled : m Bool
  makeProfileDirectory : m (Except FileFault String)
  removeProfileDirectory : String → m (Except FileFault Unit)

namespace Engine

variable {m : Type → Type} [Monad m] [Pattern.Compiler]

def checkpoint (engine : Engine m) (phase : Phase) : Analysis m Unit := do
  if ← Analysis.perform engine.cancelled then throw (.cancelled phase)

structure Selection where
  locator : Locator
  dataset : Dataset
  reached : List (Function × List Dependency)

def select (engine : Engine m) (path pattern : String) : Analysis m Selection := do
  match Pattern.Compiler.compile? pattern with
  | none => throw .pattern
  | some isSelected =>
    let locator := Locator.ofPath path (← Analysis.perform (engine.directory? path))
    engine.checkpoint .analysis
    let dataset ← Dataset.build engine.loader locator isSelected
    engine.checkpoint .extraction
    let reached ← dataset.extractAll (Analysis.resolve engine.loader locator)
    return ⟨locator, dataset, reached⟩

def listing (entry : Function × List Dependency) : TargetListing :=
  ⟨entry.1, entry.2.map Dependency.listed⟩

def analyze (engine : Engine m) (path pattern : String) : Analysis m (List TargetListing) := do
  let selection ← engine.select path pattern
  return selection.reached.map listing

def profileName : String := "coverage.out"

def testAndSummarize (engine : Engine m) (i : Invocation) : m (Except Failure String) := do
  match ← engine.toolchain.runTests i with
  | .error e => return .error e
  | .ok () => engine.toolchain.summarize i.locator i.profile

/-- The summary of a test run in a directory of its own. What went wrong with the tests counts
before what went wrong with the directory. -/
def summary (engine : Engine m) (locator : Locator) (pattern : String) (packages : List String) :
    m (Except Failure String) := do
  match ← engine.makeProfileDirectory with
  | .error fault => return .error (.file "failed to create coverage profile directory" fault)
  | .ok directory =>
    let result ← engine.testAndSummarize {
      locator := locator
      tests := pattern
      profile := Text.Path.join directory profileName
      mode := engine.settings.coverMode
      packages := packages
      more := engine.settings.testArguments }
    let removed ← engine.removeProfileDirectory directory
    match result, removed with
    | .error e, _ => return .error e
    | .ok _, .error fault =>
      return .error (.file "failed to remove coverage profile directory" fault)
    | .ok summary, .ok () => return .ok summary

def cover (engine : Engine m) (selection : Selection) (pattern : String) (ds : List Dependency) :
    m (Except Failure (List Coverage.Row)) := do
  let packages := Dependency.packages ds selection.dataset.files
  if packages.isEmpty then return .ok []
  match ← engine.summary selection.locator pattern packages with
  | .error e => return .error e
  | .ok summary =>
    return (Coverage.rowsOfSummary summary).map fun rows =>
      Coverage.pair selection.dataset.files engine.settings.matchRule ds rows

def run (engine : Engine m) (path pattern : String) : Analysis m Coverage.Report := do
  let selection ← engine.select path pattern
  let ds := Dependency.collapse (selection.reached.flatMap (·.2))
  engine.checkpoint .coverage
  let rows ← Analysis.call (engine.cover selection pattern ds)
  return .ofRows rows

end Engine

end TestReach
