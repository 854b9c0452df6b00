import Std.Time.Format
import TestReach.Command.Run

/-!
# The program

The command on the files, the environment and the clock of a real machine. It starts no other
program: listings and summaries come from the recordings that the environment names.
-/

namespace TestReach.Program

def faultOf : IO.Error → FileFault
  | .noFileOrDirectory .. => .notFound
  | .inappropriateType _ 21 _ => .isDirectory
  | .inappropriateType _ 20 _ => .notDirectory
  | .permissionDenied _ code text => .system text code.toNat
  | .resourceExhausted _ code text => .system text code.toNat
  | .inappropriateType _ code text => .system text code.toNat
  | .invalidArgument _ code text => .system text code.toNat
  | .otherError code text => .system text code.toNat
  | e => .system (toString e) 0

def attempt {α : Type} (action : IO α) : BaseIO (Except FileFault α) := do
  match ← action.toBaseIO with
  | .ok a => return .ok a
  | .error e => return .error (faultOf e)

def octetsOf (bytes : ByteArray) : List Char :=
  bytes.toList.map fun byte => Char.ofNat byte.toNat

def bytesOf (octets : List Char) : ByteArray :=
  ⟨(octets.map fun c => c.toNat.toUInt8).toArray⟩

def host : Host BaseIO where
  read := fun path => attempt (octetsOf <$> IO.FS.readBinFile path)
  run := fun _ => return .error .notFound

def directory? (path : String) : BaseIO (Option String) := do
  if path == "" then return none
  return (← attempt (IO.FS.realPath (path ++ "/."))).toOption.map toString

def now : BaseIO String := do
  match ← Std.Time.Timestamp.now.toBaseIO with
  | .error _ => return ""
  | .ok time =>
    let date := Std.Time.PlainDateTime.ofWallTime (time.toWallTime .zero)
    return date.toLeanDateTimeString ++ "+00:00"

def machine : Command.Machine BaseIO where
  host := host
  directory? := directory?
  write := fun path octets => attempt (IO.FS.writeBinFile path (bytesOf octets))
  environmentValue := fun name => IO.getEnv name
  makeProfileDirectory := attempt (toString <$> IO.FS.createTempDir)
  removeProfileDirectory := fun path => attempt (IO.FS.removeDirAll path)
  now := now

end TestReach.Program

def main (arguments : List String) : IO UInt32 := do
  let answer ← (TestReach.Command.answer TestReach.Program.machine arguments : BaseIO _)
  IO.print answer.output
  match answer.error? with
  | some message => IO.eprintln ("Error: " ++ message)
  | none => pure ()
  return answer.code.toUInt32
