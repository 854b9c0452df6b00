import TestReach.Settings

/-!
# Arguments of the command

One path, and options before and behind it. An option with a value takes it from the same argument
or from the next one; what stands behind `--` is no option.
-/

namespace TestReach.Command

inductive ValueOption
  | run
  | output
  | coverMode
  | matchRule
  | config
deriving DecidableEq, Repr

inductive Flag
  | json
  | dependenciesOnly
  | verbose
deriving DecidableEq, Repr

namespace ValueOption

def all : List ValueOption := [run, output, coverMode, matchRule, config]

def long : ValueOption → String
  | run => "run"
  | output => "output"
  | coverMode => "covermode"
  | matchRule => "match-rule"
  | config => "config"

def label : ValueOption → String
  | run => "--run <RUN>"
  | output => "--output <OUTPUT>"
  | coverMode => "--covermode <COVERMODE>"
  | matchRule => "--match-rule <MATCH_RULE>"
  | config => "--config <CONFIG>"

def accepts : ValueOption → String → Bool
  | run, _ => true
  | output, value => value != ""
  | config, value => value != ""
  | coverMode, value => (CoverMode.ofName? value).isSome
  | matchRule, value => (MatchRule.ofName? value).isSome

end ValueOption

namespace Flag

def all : List Flag := [json, dependenciesOnly, verbose]

def long : Flag → String
  | json => "json"
  | dependenciesOnly => "deps-only"
  | verbose => "verbose"

def label (flag : Flag) : String := "--" ++ flag.long

end Flag

inductive Misuse
  | unexpected (argument : String)
  | noValue (option : ValueOption)
  | badValue (value : String) (option : ValueOption)
  | extraValue (value flag : String)
  | repeated (label : String)
  | conflict (label other : String)
  | noPath
deriving DecidableEq, Repr

def Misuse.message : Misuse → String
  | unexpected argument => "unexpected argument '" ++ argument ++ "' found"
  | noValue option => "a value is required for '" ++ option.label ++ "' but none was supplied"
  | badValue value option => "invalid value '" ++ value ++ "' for '" ++ option.label ++ "'"
  | extraValue value flag =>
    "unexpected value '" ++ value ++ "' for '" ++ flag ++ "' found; no more were expected"
  | repeated label => "the argument '" ++ label ++ "' cannot be used multiple times"
  | conflict label other => "the argument '" ++ label ++ "' cannot be used with '" ++ other ++ "'"
  | noPath => "the following required arguments were not provided:"

inductive Stop
  | misuse (m : Misuse)
  | version
  | help
deriving DecidableEq, Repr

/-- The arguments read so far. An option may still wait for its value, or hold a value that is not
checked yet. -/
structure Progress where
  path? : Option String
  values : List (ValueOption × String)
  flags : List Flag
  given : List String
  pending? : Option (ValueOption × Option String)

namespace Progress

def start : Progress := ⟨none, [], [], [], none⟩

def value? (p : Progress) (option : ValueOption) : Option String :=
  (p.values.find? fun (o, _) => o = option).map (·.2)

def setValue (p : Progress) (option : ValueOption) (value? : Option String) :
    Except Stop Progress :=
  match value? with
  | none => .error (.misuse (.noValue option))
  | some value =>
    if (p.value? option).isSome then .error (.misuse (.repeated option.label))
    else if option.accepts value then
      .ok { p with values := p.values ++ [(option, value)], given := p.given ++ [option.label] }
    else if value == "" then .error (.misuse (.noValue option))
    else .error (.misuse (.badValue value option))

def settle (p : Progress) : Except Stop Progress :=
  match p.pending? with
  | none => .ok p
  | some (option, value?) => setValue { p with pending? := none } option value?

def setFlag (p : Progress) (flag : Flag) : Except Stop Progress := do
  let p ← p.settle
  if flag ≠ .verbose ∧ flag ∈ p.flags then throw (.misuse (.repeated flag.label))
  return { p with flags := p.flags ++ [flag], given := p.given ++ [flag.label] }

def setOption (p : Progress) (option : ValueOption) (attached? : Option String) :
    Except Stop Progress := do
  let p ← p.settle
  match attached? with
  | some value => p.setValue option (some value)
  | none => return { p with pending? := some (option, none) }

def addLong (p : Progress) (argument : String) : Except Stop Progress :=
  let body := argument.toList.drop 2
  let (name, behind) := body.span (· != '=')
  let name := String.ofList name
  let attached? := if behind.isEmpty then none else some (String.ofList (behind.drop 1))
  match ValueOption.all.find? fun o => o.long == name, Flag.all.find? fun f => f.long == name with
  | some option, _ => p.setOption option attached?
  | none, some flag =>
    match attached? with
    | some value => .error (.misuse (.extraValue value flag.label))
    | none => p.setFlag flag
  | none, none =>
    if name == "version" || name == "help" then
      match attached? with
      | some value => .error (.misuse (.extraValue value ("--" ++ name)))
      | none => do
        let _ ← p.settle
        throw (if name == "version" then .version else .help)
    else .error (.misuse (.unexpected ("--" ++ name)))

def addShort (p : Progress) : List Char → Except Stop Progress
  | [] => .ok p
  | 'v' :: rest => do
    let p ← p.setFlag .verbose
    p.addShort rest
  | 'o' :: rest =>
    let value := if rest.head? == some '=' then rest.drop 1 else rest
    p.setOption .output (if rest.isEmpty then none else some (String.ofList value))
  | 'V' :: _ => do
    let _ ← p.settle
    throw .version
  | 'h' :: _ => do
    let _ ← p.settle
    throw .help
  | c :: _ => .error (.misuse (.unexpected (String.ofList ['-', c])))

def addPlain (p : Progress) (argument : String) : Except Stop Progress :=
  match p.path? with
  | some _ => .error (.misuse (.unexpected argument))
  | none => do
    let p ← p.settle
    return { p with path? := some argument }

def readAll (plain : Bool) (p : Progress) : List String → Except Stop Progress
  | [] => p.settle
  | argument :: rest =>
    if plain then do
      let p ← p.addPlain argument
      readAll plain p rest
    else
      match argument.toList with
      | ['-', '-'] => readAll true p rest
      | '-' :: '-' :: _ => do
        let p ← p.addLong argument
        readAll plain p rest
      | '-' :: c :: letters => do
        let p ← p.addShort (c :: letters)
        readAll plain p rest
      | _ => do
        let p ← match p.pending? with
          | some (option, none) => pure { p with pending? := some (option, some argument) }
          | _ => p.addPlain argument
        readAll plain p rest

end Progress

structure Arguments where
  path : String
  run : String
  output? : Option String
  json : Bool
  dependenciesOnly : Bool
  coverMode? : Option String
  matchRule? : Option String
  config? : Option String
  verbosity : Nat
deriving DecidableEq, Repr

namespace Arguments

/-- The arguments once all are read. JSON is printed and cannot go to a file; of the two the one
that came first is told of first. -/
def ofProgress (p : Progress) : Except Stop Arguments :=
  let json := Flag.json.label
  let output := ValueOption.output.label
  match p.given.filter fun label => label == json || label == output with
  | first :: second :: _ => .error (.misuse (.conflict first second))
  | _ =>
    match p.path? with
    | none => .error (.misuse .noPath)
    | some path => .ok {
        path := path
        run := (p.value? .run).getD "Test"
        output? := p.value? .output
        json := p.flags.contains .json
        dependenciesOnly := p.flags.contains .dependenciesOnly
        coverMode? := p.value? .coverMode
        matchRule? := p.value? .matchRule
        config? := p.value? .config
        verbosity := p.flags.count .verbose }

def read (arguments : List String) : Except Stop Arguments := do
  ofProgress (← Progress.readAll false .start arguments)

end Arguments

end TestReach.Command
