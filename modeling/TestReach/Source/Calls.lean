import TestReach.Source.Tree
import TestReach.Source.File

/-!
# Calls and references in a body

The nodes of a body are visited last child first, as a stack gives them back, and what is found is
then put in the order of its places; of two finds at one place the outer one was visited first and
stays first.
-/

namespace TestReach.Source.Tree

mutual

/-- A node and all nodes below it, each with the kind of the node above it. -/
def visit (above : Kind) : Tree → List (Kind × Tree)
  | node role kind span children =>
    (above, node role kind span children) :: visitAll kind children

def visitAll (above : Kind) : List Tree → List (Kind × Tree)
  | [] => []
  | t :: ts => visitAll above ts ++ visit above t

end

def insertByPlace {α : Type} (entry : Nat × α) : List (Nat × α) → List (Nat × α)
  | [] => [entry]
  | other :: rest =>
    if entry.1 < other.1 then entry :: other :: rest else other :: insertByPlace entry rest

def inOrderOfPlace {α : Type} (entries : List (Nat × α)) : List α :=
  (entries.foldl (fun sorted entry => insertByPlace entry sorted) []).map Prod.snd

def isIdentifier (t : Tree) : Bool := t.kind == .identifier

mutual

/-- What an expression names when it is called. Through parentheses their first child is called,
through brackets their operand; a conversion, a literal or an operator names nothing. -/
def callee? (source : List Char) : Tree → Option Callee
  | node role kind span children =>
    match kind with
    | .parenthesizedExpression => calleeOfFirst? source children
    | .indexExpression => calleeOfOperand? source children
    | .callExpression => some .computed
    | .identifier => some (.bare (text source (node role kind span children)))
    | .selectorExpression =>
      match child? .field (node role kind span children),
          child? .operand (node role kind span children) with
      | some field, some operand =>
        if operand.isIdentifier then
          some (.qualified (text source operand) (text source field))
        else some (.method (text source field))
      | _, _ => none
    | _ => none

def calleeOfFirst? (source : List Char) : List Tree → Option Callee
  | [] => none
  | first :: _ => callee? source first

def calleeOfOperand? (source : List Char) : List Tree → Option Callee
  | [] => none
  | t :: ts => if t.role = .operand then callee? source t else calleeOfOperand? source ts

end

def callSite? (source : List Char) (t : Tree) : Option CallSite :=
  if t.kind = .callExpression then
    match t.child? .function with
    | some function => (callee? source function).map fun callee => ⟨t.line, callee⟩
    | none => none
  else none

def isCalled (above : Kind) (t : Tree) : Bool := above == .callExpression && t.role == .function

def isParameter (above : Kind) : Bool :=
  above == .parameterDeclaration || above == .variadicParameterDeclaration

/-- What a node names as a value: identifiers and selectors that are not called. An identifier in a
selector or in a parameter stands for no value of its own. -/
def reference? (source : List Char) (above : Kind) (t : Tree) : Option Callee :=
  if isCalled above t then none
  else if t.isIdentifier then
    if above == .selectorExpression || isParameter above then none
    else some (.bare (text source t))
  else if t.kind == .selectorExpression then callee? source t
  else none

def callSites (source : List Char) (body : Tree) : List CallSite :=
  inOrderOfPlace ((visit .functionDeclaration body).filterMap fun visited =>
    (callSite? source visited.2).map (visited.2.span.start.offset, ·))

def references (source : List Char) (root : Tree) : List Callee :=
  inOrderOfPlace ((visit .functionDeclaration root).filterMap fun visited =>
    (reference? source visited.1 visited.2).map (visited.2.span.start.offset, ·))

end TestReach.Source.Tree
