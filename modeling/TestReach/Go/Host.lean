import TestReach.Locator
import TestReach.Text.Blank
import TestReach.Text.Octets

namespace TestReach

structure Command where
  program : String
  arguments : List String
  directory? : Option String
deriving DecidableEq, Repr

namespace Host

inductive Status
  | exit (code : Nat)
  | signal (number : Nat)
deriving DecidableEq, Repr

def signalNames : List String :=
  ["SIGHUP", "SIGINT", "SIGQUIT", "SIGILL", "SIGTRAP", "SIGABRT", "SIGBUS", "SIGFPE", "SIGKILL",
    "SIGUSR1", "SIGSEGV", "SIGUSR2", "SIGPIPE", "SIGALRM", "SIGTERM", "SIGSTKFLT", "SIGCHLD",
    "SIGCONT", "SIGSTOP", "SIGTSTP", "SIGTTIN", "SIGTTOU", "SIGURG", "SIGXCPU", "SIGXFSZ",
    "SIGVTALRM", "SIGPROF", "SIGWINCH", "SIGIO", "SIGPWR", "SIGSYS"]

def Status.isSuccess : Status → Bool
  | exit code => code == 0
  | signal _ => false

def Status.display : Status → String
  | exit code => "exit status: " ++ toString code
  | signal number =>
    "signal: " ++ toString number ++
      match signalNames[number - 1]? with
      | some name => " (" ++ name ++ ")"
      | none => ""

structure Outcome where
  output : List Char
  errors : List Char
  status : Status

def tailLength : Nat := 5

def tail (octets : List Char) : String :=
  let lines := ((Text.lines (Text.ofOctetsReplacing octets).toList).map Text.trim).filter
    fun line => !line.isEmpty
  String.ofList (Text.joinWith " | ".toList (lines.drop (lines.length - tailLength)))

end Host

structure Host (m : Type → Type) where
  read : String → m (Except FileFault (List Char))
  run : Command → m (Except FileFault Host.Outcome)

def Host.readText {m : Type → Type} [Monad m] (host : Host m) (path : String) :
    m (Except FileFault String) := do
  match ← host.read path with
  | .error fault => return .error fault
  | .ok octets =>
    match Text.ofOctets? octets with
    | some text => return .ok text
    | none => return .error .notText

end TestReach
