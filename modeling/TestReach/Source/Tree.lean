import TestReach.Source.Position

/-!
# Syntax trees

A node says what it is, which part it plays in the node above, where it stands, and holds the nodes
below in source order. Keywords and operators are not nodes; the operator of a binary expression is
part of its kind.
-/

namespace TestReach.Source

inductive Kind
  | comment
  | error | missing
  -- names
  /-- `new` and `make` while a source is read; a tree has identifiers in their place. -/
  | allocator
  | identifier | fieldIdentifier | typeIdentifier | packageIdentifier | labelName
  -- declarations
  | sourceFile | packageClause | importDeclaration | importSpecList | importSpec
  | constDeclaration | constSpec | varDeclaration | varSpec
  | typeDeclaration | typeSpec
  | functionDeclaration | methodDeclaration
  | parameterList | parameterDeclaration | variadicParameterDeclaration
  | typeParameterList | typeParameterDeclaration
  -- types
  | pointerType | genericType | qualifiedType | parenthesizedType | arrayType
  | implicitLengthArrayType | sliceType | structType | fieldDeclaration | interfaceType
  | methodElement | mapType | channelType | functionType | negatedType | unionType
  -- statements
  | block | emptyStatement | expressionStatement | labeledStatement | expressionList | sendStatement
  | incrementStatement | assignment | shortVarDeclaration
  | returnStatement | goStatement | deferStatement | branchStatement
  | ifStatement | forStatement | forClause | rangeClause
  /-- A `switchStatement` decides by an expression or by a type. -/
  | switchStatement | selectStatement | typeGuard
  | expressionCase | typeCase | communicationCase | defaultCase
  -- expressions
  | literal | predeclared | unaryExpression (operator : String)
  | binaryExpression (operator : String)
  | parenthesizedExpression | selectorExpression | indexExpression | sliceExpression | sliceBounds
  | typeInstantiation | typeArguments | typeAssertion | callExpression | conversion
  | argumentList | variadicArgument
  | compositeLiteral | literalValue | keyedElement | funcLiteral
deriving DecidableEq, Repr, Inhabited

inductive Role
  | plain | function | operand | field | name | type | body | receiver | alternative | update | path
deriving DecidableEq, Repr, Inhabited

inductive Tree
  | node (role : Role) (kind : Kind) (span : Span) (children : List Tree)
deriving Repr, Inhabited

namespace Tree

def role : Tree → Role
  | node role _ _ _ => role

def kind : Tree → Kind
  | node _ kind _ _ => kind

def span : Tree → Span
  | node _ _ span _ => span

def children : Tree → List Tree
  | node _ _ _ children => children

def line (t : Tree) : Nat := t.span.start.line

def endLine (t : Tree) : Nat := t.span.stop.line

def withRole (role : Role) : Tree → Tree
  | node _ kind span children => node role kind span children

def withKind (kind : Kind) : Tree → Tree
  | node role _ span children => node role kind span children

def withChildren (children : List Tree) : Tree → Tree
  | node role kind span _ => node role kind span children

def child? (role : Role) (t : Tree) : Option Tree :=
  t.children.find? fun child => child.role == role

def text (source : List Char) (t : Tree) : String :=
  String.ofList ((source.drop t.span.start.offset).take (t.span.stop.offset - t.span.start.offset))

mutual

def nodes : Tree → List Tree
  | node role kind span children => node role kind span children :: nodesOfAll children

def nodesOfAll : List Tree → List Tree
  | [] => []
  | t :: ts => nodes t ++ nodesOfAll ts

end

/-- What is true of a node once it is true of all nodes below it is true of every tree. -/
theorem induction {P : Tree → Prop}
    (step : ∀ role kind span children, (∀ t ∈ children, P t) → P (node role kind span children)) :
    ∀ t, P t
  | node role kind span children => step role kind span children fun t _ => induction step t

theorem nodesOfAll_eq_flatMap (ts : List Tree) : nodesOfAll ts = ts.flatMap nodes := by
  induction ts with
  | nil => rfl
  | cons t ts ih => simp [nodesOfAll, ih]

theorem nodes_eq (t : Tree) : t.nodes = t :: t.children.flatMap nodes := by
  cases t with
  | node role kind span children => rw [nodes, nodesOfAll_eq_flatMap]; rfl

theorem mem_nodes_self (t : Tree) : t ∈ t.nodes := by
  rw [nodes_eq]
  exact List.mem_cons_self

theorem mem_nodes_of_child {t child other : Tree} (below : child ∈ t.children)
    (inside : other ∈ child.nodes) : other ∈ t.nodes := by
  rw [nodes_eq]
  exact List.mem_cons_of_mem _ (List.mem_flatMap.2 ⟨child, below, inside⟩)

end Tree

end TestReach.Source
