import TestReach.Source.Tree

/-!
# Sizes of bodies

The size of a function body is an estimate of the basic blocks that it is lowered to: one for the
entry, and what each branching construct adds. Function literals are functions of their own and add
nothing.
-/

namespace TestReach.Source.Tree

def caseBlocks (t : Tree) : Nat :=
  match t.kind with
  | .expressionCase | .typeCase | .communicationCase => 2
  | .defaultCase => 1
  | _ => 0

/-- The blocks that a node adds by itself, whatever stands below it. -/
def ownBlocks (t : Tree) : Nat :=
  match t.kind with
  | .ifStatement => if (t.child? .alternative).isSome then 3 else 2
  | .forStatement =>
    match t.children.find? fun child => child.kind == .forClause with
    | some clause => if (clause.child? .update).isSome then 4 else 3
    | none => 3
  | .switchStatement | .selectStatement =>
    t.children.foldl (fun count child => count + caseBlocks child) 1
  | .binaryExpression "&&" | .binaryExpression "||" => 2
  | _ => 0

mutual

def innerBlocks : Tree → Nat
  | node role kind span children =>
    ownBlocks (node role kind span children) + innerBlocksOfAll children

def innerBlocksOfAll : List Tree → Nat
  | [] => 0
  | t :: ts => (if t.kind = .funcLiteral then 0 else innerBlocks t) + innerBlocksOfAll ts

end

def blocks (body : Tree) : Nat := 1 + innerBlocks body

end TestReach.Source.Tree
