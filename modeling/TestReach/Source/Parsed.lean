import TestReach.Source.Blocks
import TestReach.Source.Calls
import TestReach.Source.Parser

/-!
# Reading source files

A source file is read through its tree. A file with a fault in its tree is refused as a whole, with
the line of the first fault.
-/

namespace TestReach.Source

structure SyntaxError where
  path : String
  line : Nat
  reason : String
deriving DecidableEq, Repr

def SyntaxError.message (e : SyntaxError) : String :=
  e.path ++ ":" ++ toString e.line ++ ": " ++ e.reason

namespace Tree

def withoutQuotes (quoted : String) : String :=
  let isQuote (c : Char) : Bool := c == '\x22' || c == '\x60'
  String.ofList ((quoted.toList.dropWhile isQuote).reverse.dropWhile isQuote).reverse

def importOf? (source : List Char) (t : Tree) : Option Import :=
  if t.kind = .importSpec then
    (t.child? .path).map fun path =>
      ⟨(t.child? .name).map (text source), withoutQuotes (text source path)⟩
  else none

mutual

def importsOf (source : List Char) : Tree → List Import
  | node _ _ _ children => importsOfAll source children

def importsOfAll (source : List Char) : List Tree → List Import
  | [] => []
  | t :: ts =>
    (if t.kind = .importSpecList then importsOf source t else (importOf? source t).toList) ++
      importsOfAll source ts

end

def typeOf? (source : List Char) (t : Tree) : Option String :=
  if t.kind = .typeSpec then (t.child? .name).map (text source) else none

/-- The receiver that a parameter list declares with its first parameter. A pointer and type
arguments are left out of the type's name. -/
def receiver? (source : List Char) (parameters : Tree) : Option Receiver := do
  let parameter ← parameters.children.find? fun child => child.kind == .parameterDeclaration
  let type ← parameter.child? .type
  let pointer := type.kind == .pointerType
  let type ← if pointer then type.children.head? else some type
  let type ← if type.kind == .genericType then type.child? .type else some type
  return ⟨text source type, pointer⟩

/-- The function or method that a node declares. A method without a receiver declares nothing. -/
def declaration? (source : List Char) (path : String) (t : Tree) : Option Declaration := do
  let name ← t.child? .name
  let receiver? ←
    if t.kind = .methodDeclaration then do
      let parameters ← t.child? .receiver
      let receiver ← receiver? source parameters
      pure (some receiver)
    else pure none
  let body? := t.child? .body
  return {
    name := text source name
    receiver? := receiver?
    file := path
    line := t.line
    endLine := t.endLine
    hasBody := body?.isSome
    blocks := (body?.map blocks).getD 0
    calls := (body?.map (callSites source)).getD [] }

def addItem (source : List Char) (file : File) (t : Tree) : File :=
  match t.kind with
  | .packageClause =>
    match t.children.head? with
    | some name => { file with package := text source name }
    | none => file
  | .importDeclaration =>
    { file with imports := file.imports ++ importsOf source t }
  | .typeDeclaration =>
    { file with types := file.types ++ t.children.filterMap (typeOf? source) }
  | .varDeclaration => { file with references := file.references ++ references source t }
  | .functionDeclaration | .methodDeclaration =>
    { file with
      references := file.references ++ ((t.child? .body).map (references source)).getD []
      declarations := file.declarations ++ (declaration? source file.path t).toList }
  | _ => file

def declared (source : List Char) (path : String) (root : Tree) : File :=
  root.children.foldl (addItem source) ⟨path, "", [], [], [], []⟩

end Tree

def File.parse [Parser] (path source : String) : Except SyntaxError File :=
  match Parser.unusable? with
  | some reason => .error ⟨path, 0, "failed to load Go grammar: " ++ reason⟩
  | none =>
    match Parser.tree? source.toList with
    | none => .error ⟨path, 0, "parser produced no tree"⟩
    | some root =>
      match root.fault? with
      | some fault => .error ⟨path, fault.line, "syntax error"⟩
      | none => .ok (root.declared source.toList path)

end TestReach.Source
