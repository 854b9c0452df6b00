import TestReach.Command.Arguments
import TestReach.Command.Failure
import TestReach.Coverage.Table
import TestReach.Engine
import TestReach.Go.Listing
import TestReach.Go.Tests
import TestReach.Json.Printing
import TestReach.Pattern.Reading
import TestReach.Source.Grammar

/-!
# The command

The command reads its arguments and settings, analyzes or runs the tests, and prints a table, JSON
or a listing, or writes a coverage file. Whatever fails is told on one line.
-/

namespace TestReach.Command

variable {m : Type → Type} [Monad m]

structure Machine (m : Type → Type) where
  host : Host m
  directory? : String → m (Option String)
  write : String → List Char → m (Except FileFault Unit)
  environmentValue : String → m (Option String)
  makeProfileDirectory : m (Except FileFault String)
  removeProfileDirectory : String → m (Except FileFault Unit)
  now : m String

structure Answer where
  code : Nat
  output : String
  error? : Option String
deriving DecidableEq, Repr

def Answer.ok (output : String) : Answer := ⟨0, output, none⟩

def Answer.failed (message : String) : Answer := ⟨1, "", some message⟩

def version : String := "0.1.0"

def goVariable : String := "DEEPCOVER_GO"

def listingVariable : String := "DEEPCOVER_FAKE_GO_LIST"

def summaryVariable : String := "DEEPCOVER_FAKE_COVER_FUNC"

def loadSettings (machine : Machine m) (path? : Option String) : m (Except Failure Settings) := do
  match path? with
  | none => return .ok .standard
  | some path => return settingsOf path (← machine.host.read path)

def engineOf (machine : Machine m) (settings : Settings) : m (Engine m) := do
  let program := settings.command (← machine.environmentValue goVariable)
  let lister : Go.Lister m := ⟨machine.host, program, ← machine.environmentValue listingVariable⟩
  let tester : Go.Tester m := ⟨machine.host, program, ← machine.environmentValue summaryVariable⟩
  return {
    loader := lister.loader
    toolchain := tester.toolchain
    settings := settings
    directory? := machine.directory?
    cancelled := pure false
    makeProfileDirectory := machine.makeProfileDirectory
    removeProfileDirectory := machine.removeProfileDirectory }

def startEmpty {α : Type} (analysis : Analysis m α) : m (Except TestReach.Failure α) := do
  let (result, _) ← analysis.run.run ModuleCache.empty
  return result

def reportJson (now path pattern : String) (report : Coverage.Report) : Json :=
  .ofMembers ([("generated_at", .text now), ("version", .text version), ("path", .text path),
    ("run", .text pattern)] ++ report.members)

def dependencies (engine : Engine m) (a : Arguments) : m (Except Failure String) := do
  match ← startEmpty (engine.analyze a.path a.run) with
  | .error e => return .error (.dependencies a.path e)
  | .ok targets =>
    return .ok (if a.json then (listingJson targets).pretty ++ "\n" else listingText targets)

def coverage (machine : Machine m) (engine : Engine m) (a : Arguments) :
    m (Except Failure String) := do
  match ← startEmpty (engine.run a.path a.run) with
  | .error e => return .error (.coverage a.path e)
  | .ok report =>
    if a.json then
      return .ok ((reportJson (← machine.now) a.path a.run report).pretty ++ "\n")
    else
      match a.output? with
      | none => return .ok report.table
      | some path =>
        match ← machine.write path (Text.octets report.file) with
        | .ok () => return .ok ""
        | .error fault => return .error (.writeReport path fault)

def perform (machine : Machine m) (a : Arguments) : m (Except Failure String) := do
  match ← loadSettings machine a.config? with
  | .error e => return .error e
  | .ok settings =>
    match override settings a.coverMode? a.matchRule? with
    | .error e => return .error e
    | .ok settings =>
      let engine ← engineOf machine settings
      if a.dependenciesOnly then dependencies engine a else coverage machine engine a

def usage : String := "Usage: deepcover [OPTIONS] <PATH>\n"

def answer (machine : Machine m) (arguments : List String) : m Answer := do
  match Arguments.read arguments with
  | .error .version => return .ok ("deepcover " ++ version ++ "\n")
  | .error .help => return .ok usage
  | .error (.misuse misuse) => return .failed misuse.message
  | .ok a =>
    match ← perform machine a with
    | .ok output => return .ok output
    | .error e => return .failed e.line

end TestReach.Command
