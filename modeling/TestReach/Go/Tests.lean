import TestReach.Go.Host
import TestReach.Toolchain

/-!
# Tests by the go command

A toolchain of the go command. With a recorded summary no process runs: the tests are passed over,
and the summary is read.
-/

namespace TestReach.Go

variable {m : Type → Type} [Monad m]

structure Tester (m : Type → Type) where
  host : Host m
  program : String
  recording? : Option String

namespace Tester

/-- A command of the toolchain; `label` is what it is called when it fails. Failing tests tell of
themselves where a summary would stand, so that is told if no error is. -/
def run (tester : Tester m) (label : String) (locator : Locator) (arguments : List String) :
    m (Except Failure Host.Outcome) := do
  match ← tester.host.run ⟨tester.program, arguments, locator.directory?⟩ with
  | .error fault =>
    return .error (.invocation label
      ("failed to spawn " ++ tester.program ++ ": " ++ fault.message))
  | .ok outcome =>
    if outcome.status.isSuccess then return .ok outcome
    else
      let errors := Host.tail outcome.errors
      let tail := if errors == "" then Host.tail outcome.output else errors
      return .error (.invocation label
        ("exited with " ++ outcome.status.display ++ ": " ++ tail))

def runTests (tester : Tester m) (i : Invocation) : m (Except Failure Unit) := do
  match tester.recording? with
  | some _ => return .ok ()
  | none =>
    match ← tester.run "go test" i.locator i.arguments with
    | .error e => return .error e
    | .ok _ => return .ok ()

def summarize (tester : Tester m) (locator : Locator) (profile : String) :
    m (Except Failure String) := do
  match tester.recording? with
  | some path =>
    match ← tester.host.readText path with
    | .error fault => return .error (.reading path fault)
    | .ok text => return .ok text
  | none =>
    match ← tester.run "go tool cover" locator ["tool", "cover", "-func=" ++ profile] with
    | .error e => return .error e
    | .ok outcome => return .ok (Text.ofOctetsReplacing outcome.output)

def toolchain (tester : Tester m) : Toolchain m where
  runTests := tester.runTests
  summarize := tester.summarize

end Tester

end TestReach.Go
