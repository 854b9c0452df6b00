import TestReach.Function
import TestReach.Text.Path

/-!
# What a source file declares

The parts of a source file that the analysis uses: imports, declared functions with their call
sites, declared types, and the names that are used without being called.
-/

namespace TestReach.Source

structure Import where
  alias? : Option String
  path : String
deriving DecidableEq, Repr, Inhabited

def Import.isDot (i : Import) : Bool := i.alias? == some "."

def Import.isBlank (i : Import) : Bool := i.alias? == some "_"

structure Receiver where
  typeName : String
  pointer : Bool
deriving DecidableEq, Repr, Inhabited

inductive Callee
  | bare (name : String)
  /-- A name behind an identifier: of a package, or of a value. -/
  | qualified (qualifier name : String)
  /-- A name behind any other expression. -/
  | method (name : String)
  | computed
deriving DecidableEq, Repr, Inhabited

def Callee.selected? : Callee → Option String
  | .qualified _ name => some name
  | .method name => some name
  | _ => none

structure CallSite where
  line : Nat
  callee : Callee
deriving DecidableEq, Repr, Inhabited

structure Declaration where
  name : String
  receiver? : Option Receiver
  file : String
  line : Nat
  endLine : Nat
  hasBody : Bool
  blocks : Nat
  calls : List CallSite
deriving DecidableEq, Repr, Inhabited

namespace Declaration

def function (d : Declaration) (package : String) : Function :=
  match d.receiver? with
  | some receiver => .method package receiver.typeName receiver.pointer d.name
  | none => ⟨package, d.name⟩

def weight (d : Declaration) : Nat := if d.hasBody then d.blocks else 0

def fileName? (d : Declaration) : Option String := Text.Path.fileName? d.file

end Declaration

structure File where
  path : String
  package : String
  imports : List Import
  declarations : List Declaration
  types : List String
  references : List Callee
deriving DecidableEq, Repr, Inhabited

def File.declaresType (file : File) (name : String) : Bool := file.types.contains name

def numberInits (count : Nat) : List Declaration → List Declaration × Nat
  | [] => ([], count)
  | d :: ds =>
    if d.receiver?.isNone && d.name == "init" then
      let (rest, last) := numberInits (count + 1) ds
      ({ d with name := "init#" ++ toString (count + 1) } :: rest, last)
    else
      let (rest, last) := numberInits count ds
      (d :: rest, last)

def numberFileInits (count : Nat) : List File → List File
  | [] => []
  | file :: files =>
    let (declarations, last) := numberInits count file.declarations
    { file with declarations } :: numberFileInits last files

def numbered (files : List File) : List File := numberFileInits 0 files

end TestReach.Source
