import TestReach.SettingsFile

namespace TestReach.Command

inductive Failure
  | readSettings (path : String) (fault : FileFault)
  | formatSettings (path : String)
  | settings (cause : TestReach.Failure)
  | coverage (path : String) (cause : TestReach.Failure)
  | dependencies (path : String) (cause : TestReach.Failure)
  | writeReport (path : String) (fault : FileFault)
deriving DecidableEq, Repr

namespace Failure

def chain : Failure → List String
  | readSettings path fault => ["Failed to read config file " ++ path, fault.message]
  | formatSettings path =>
    let format := if Settings.isYamlPath path then "YAML" else "JSON"
    ["Failed to parse " ++ format ++ " config " ++ path]
  | settings cause => cause.chain
  | coverage path cause => ("Failed to compute coverage of " ++ path) :: cause.chain
  | dependencies path cause => ("Failed to extract dependencies of " ++ path) :: cause.chain
  | writeReport path fault => ["Failed to write coverage file " ++ path, fault.message]

def message (failure : Failure) : String := joinTexts ": " failure.chain

def line (failure : Failure) : String :=
  String.ofList (failure.message.toList.map fun c => if c == '\n' then ' ' else c)

end Failure

def settingsOf (path : String) (contents : Except FileFault (List Char)) :
    Except Failure Settings :=
  match contents with
  | .error fault => .error (.readSettings path fault)
  | .ok octets =>
    match Text.ofOctets? octets with
    | none => .error (.readSettings path .notText)
    | some text =>
      match Settings.ofText? path text with
      | some settings => .ok settings
      | none => .error (.formatSettings path)

def override (settings : Settings) (mode? rule? : Option String) : Except Failure Settings :=
  (settings.override mode? rule?).mapError Failure.settings

end TestReach.Command
