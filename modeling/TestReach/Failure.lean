import TestReach.Function
import TestReach.Text.Cut
import TestReach.Text.Quoted

/-!
# Failures

Why an analysis or a test run did not come to its end. Each cause has a message of one line.
-/

namespace TestReach

inductive FileFault
  | notFound
  | isDirectory
  | notDirectory
  | notText
  | noSource (path : String)
  | system (text : String) (code : Nat)
deriving DecidableEq, Repr

def FileFault.message : FileFault → String
  | .notFound => "No such file or directory (os error 2)"
  | .isDirectory => "Is a directory (os error 21)"
  | .notDirectory => "Not a directory (os error 20)"
  | .notText => "stream did not contain valid UTF-8"
  | .noSource path => "no source " ++ path
  | .system text code => text ++ " (os error " ++ toString code ++ ")"

structure Diagnostic where
  package : String
  messages : List String
deriving DecidableEq, Repr

def joinTexts (mark : String) (texts : List String) : String :=
  String.ofList (Text.joinWith mark.toList (texts.map String.toList))

def Diagnostic.message (d : Diagnostic) : String :=
  "failed to load package " ++ d.package ++ ": " ++ joinTexts ", " d.messages

inductive Phase
  | analysis
  | extraction
  | coverage
deriving DecidableEq, Repr

def Phase.name : Phase → String
  | .analysis => "analysis"
  | .extraction => "dependency extraction"
  | .coverage => "coverage"

inductive Failure
  | noPackages (locator : String)
  | packages (diagnostics : List Diagnostic)
  | loader (reason : String)
  | targetNotFound (target : Function)
  | noRoot
  | rootOutsideModule (root : Function)
  | moduleUnresolved (package reason : String)
  | invocation (command detail : String)
  | percent (row field : String)
  | file (context : String) (fault : FileFault)
  /-- The pattern that selects the tests is refused; in what words is left to its compiler. -/
  | pattern
  | configuration (reason : String)
  | cancelled (before : Phase)
deriving DecidableEq, Repr

def Failure.message : Failure → String
  | .noPackages locator => "no packages found for " ++ locator
  | .packages diagnostics => joinTexts "; " (diagnostics.map Diagnostic.message)
  | .loader reason => "failed to load packages: " ++ reason
  | .targetNotFound target => "failed to find callgraph node for function " ++ target.display
  | .noRoot => "start node is nil"
  | .rootOutsideModule root => "root function is not in a module: " ++ root.display
  | .moduleUnresolved package reason =>
    "failed to resolve module of " ++ package ++ ": " ++ reason
  | .invocation command detail => command ++ " failed: " ++ detail
  | .percent row field =>
    "invalid coverage percentage " ++ Text.Quoted.quote field ++ " in row " ++
      Text.Quoted.quote row
  | .file context fault => context ++ ": " ++ fault.message
  | .pattern => "invalid test regex"
  | .configuration reason => "invalid configuration: " ++ reason
  | .cancelled before => "analysis cancelled before " ++ before.name

def Failure.chain (f : Failure) : List String :=
  match f with
  | .file _ fault => [f.message, fault.message]
  | _ => [f.message]

def Failure.reading (path : String) (fault : FileFault) : Failure :=
  .file ("failed to read " ++ path) fault

end TestReach
