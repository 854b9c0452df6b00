import TestReach.Failure

/-!
# Settings

How a run counts coverage, how the rows of a summary are paired with functions, and which command
runs the tests.
-/

namespace TestReach

inductive CoverMode
  | set
  | count
  | atomic
deriving DecidableEq, Repr

namespace CoverMode

def name : CoverMode → String
  | set => "set"
  | count => "count"
  | atomic => "atomic"

def ofName? (name : String) : Option CoverMode :=
  [set, count, atomic].find? fun mode => mode.name == name

end CoverMode

/-- How a row is paired with a function: by the package that owns the row's file, or by the
package's path standing anywhere in the row's. -/
inductive MatchRule
  | ownership
  | substring
deriving DecidableEq, Repr

namespace MatchRule

def name : MatchRule → String
  | ownership => "ownership"
  | substring => "substring"

def ofName? (name : String) : Option MatchRule :=
  [ownership, substring].find? fun rule => rule.name == name

end MatchRule

def lowerCase (text : String) : String := String.ofList (text.toList.map Char.toLower)

def CoverMode.read (text : String) : Except Failure CoverMode :=
  let name := lowerCase text
  match CoverMode.ofName? name with
  | some mode => .ok mode
  | none => .error (.configuration ("unknown cover mode " ++ Text.Quoted.quote name ++
      " (expected set, count or atomic)"))

def MatchRule.read (text : String) : Except Failure MatchRule :=
  let name := lowerCase text
  match MatchRule.ofName? name with
  | some rule => .ok rule
  | none => .error (.configuration ("unknown match rule " ++ Text.Quoted.quote name ++
      " (expected ownership or substring)"))

structure Settings where
  goBinary? : Option String
  coverMode : CoverMode
  matchRule : MatchRule
  testArguments : List String
deriving DecidableEq, Repr

namespace Settings

def standard : Settings := ⟨none, .atomic, .ownership, []⟩

/-- The command to run: the one that is set, else the one of the environment, else `go`. -/
def command (settings : Settings) (environment? : Option String) : String :=
  (settings.goBinary?.or environment?).getD "go"

def override (settings : Settings) (mode? rule? : Option String) : Except Failure Settings := do
  let mode ← (mode?.map CoverMode.read).getD (.ok settings.coverMode)
  let rule ← (rule?.map MatchRule.read).getD (.ok settings.matchRule)
  return { settings with coverMode := mode, matchRule := rule }

end Settings

@[simp] theorem CoverMode.ofName?_name (mode : CoverMode) : ofName? mode.name = some mode := by
  cases mode <;> decide

@[simp] theorem MatchRule.ofName?_name (rule : MatchRule) : ofName? rule.name = some rule := by
  cases rule <;> decide

end TestReach
