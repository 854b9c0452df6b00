import TestReach.Text.Cut

/-!
# Functions

A function is known by its package and its name. A method's name carries its receiver, so that
methods of two types of one package do not meet. Entry and initialisation hooks are built in.
-/

namespace TestReach

structure Function where
  package : String
  name : String
deriving DecidableEq, Repr, Inhabited, Hashable

namespace Function

/-- The name of a method: its receiver in parentheses, with a star if it is a pointer. -/
def methodName (receiver : String) (pointer : Bool) (name : String) : String :=
  "(" ++ (if pointer then "*" else "") ++ receiver ++ ")." ++ name

def method (package receiver : String) (pointer : Bool) (name : String) : Function :=
  ⟨package, methodName receiver pointer name⟩

def display (f : Function) : String := f.package ++ "." ++ f.name

def shortName (f : Function) : String :=
  match Text.cutLast? [')', '.'] f.name.toList with
  | some (_, name) => String.ofList name
  | none => f.name

def isMethod (f : Function) : Bool := f.name.toList.head? == some '('

/-- `init`, `init#` with an ordinal behind it, and `main`. -/
def isBuiltInName (name : String) : Bool :=
  match Text.behind? "init".toList name.toList with
  | some rest => rest.isEmpty || rest.head? == some '#'
  | none => name == "main"

/-- Hooks are never targets and never dependencies. -/
def isBuiltIn (f : Function) : Bool := !f.isMethod && isBuiltInName f.name

def before (f g : Function) : Bool :=
  f.package < g.package || f.package == g.package && f.name < g.name

def insert (f : Function) : List Function → List Function
  | [] => [f]
  | g :: gs =>
    if f = g then g :: gs else if before f g then f :: g :: gs else g :: insert f gs

def sorted (functions : List Function) : List Function :=
  functions.foldl (fun set f => insert f set) []

end Function

end TestReach
