import TestReach.Source.Tree

/-!
# Expressions that may be types

Before its types are known, `f[a](x)` may index `f` and call the element, instantiate `f` and call
the instance, or convert `x` to the type `f[a]`. Such forms are read once, as expressions, and then
settled here by their shape: a node is taken over as a type with the same places and the same
children, only its kinds change. Where both readings are possible, the one of greater weight is
kept, and of equal weights the expression.
-/

namespace TestReach.Source

namespace Tree

def isType (t : Tree) : Bool :=
  match t.kind with
  | .typeIdentifier | .pointerType | .genericType | .qualifiedType | .parenthesizedType
  | .arrayType | .implicitLengthArrayType | .sliceType | .structType | .interfaceType | .mapType
  | .channelType | .functionType | .negatedType | .unionType => true
  | _ => false

/-- Where an expression is taken for a type. A union stands only in a list of type arguments, and a
predeclared word names a type only where no expression may stand. -/
structure TypePlace where
  unions : Bool
  words : Bool
deriving DecidableEq

namespace TypePlace

def base : TypePlace := ⟨false, false⟩

def argument : TypePlace := ⟨true, true⟩

def instantiating : TypePlace := ⟨false, true⟩

def calling : TypePlace := ⟨true, false⟩

end TypePlace

def isNameIn (place : TypePlace) (t : Tree) : Bool :=
  t.kind == .identifier || place.words && (t.kind == .predeclared || t.kind == .allocator)

def baseType? (place : TypePlace) (t : Tree) : Option Tree :=
  match t.kind with
  | .typeIdentifier | .qualifiedType => some t
  | .selectorExpression =>
    if (t.child? .operand).any (isNameIn place) then
      some (node t.role .qualifiedType t.span (t.children.map fun child =>
        match child.role with
        | .operand => child.withKind .packageIdentifier
        | .field => child.withKind .typeIdentifier
        | _ => child))
    else none
  | _ => if isNameIn place t then some (t.withKind .typeIdentifier) else none

mutual

/-- The type that an expression may be read as. An array that leaves its length to its elements is
a type only in front of them. -/
def asType? (place : TypePlace) (t : Tree) : Option Tree :=
  match t with
  | node role kind span children =>
    if (node role kind span children).isType then
      if kind = .implicitLengthArrayType ∨ kind = .unionType ∧ !place.unions then none else some t
    else match kind, children with
      | .unaryExpression "*", children =>
        (asTypes? { place with unions := false } children).map (node role .pointerType span)
      | .parenthesizedExpression, children =>
        (asTypes? { place with unions := false } children).map (node role .parenthesizedType span)
      | .binaryExpression "|", first :: rest =>
        if place.unions then
          match asType? place first, asTypes? .argument rest with
          | some first, some rest => some (node role .unionType span (first :: rest))
          | _, _ => none
        else none
      | .indexExpression, base :: arguments | .typeInstantiation, base :: arguments =>
        match baseType? place base, asTypes? .argument arguments with
        | some base, some arguments =>
          some (node role .genericType span (base.withRole .type :: arguments))
        | _, _ => none
      | .comment, _ => some t
      | _, _ => baseType? place (node role kind span children)

def asTypes? (place : TypePlace) : List Tree → Option (List Tree)
  | [] => some []
  | node role kind span children :: ts =>
    let first? :=
      if kind = .typeArguments then asTypes? place children
      else (asType? place (node role kind span children)).map ([·])
    match first?, asTypes? place ts with
    | some first, some rest => some (first ++ rest)
    | _, _ => none

end

def splitArguments? : Tree → Option (Tree × List Tree)
  | node role .genericType _ (base :: arguments) =>
    if arguments.any fun argument => argument.kind == .unionType then none
    else some (base.withRole role, arguments)
  | node role kind span children =>
    match kind with
    | .pointerType | .sliceType | .arrayType | .mapType | .channelType | .functionType
    | .negatedType =>
      (splitLast? children).map fun (children, arguments) =>
        (node role kind span children, arguments)
    | _ => none
where
  splitLast? : List Tree → Option (List Tree × List Tree)
    | [] => none
    | [t] => (splitArguments? t).map fun (t, arguments) => ([t], arguments)
    | t :: ts => (splitLast? ts).map fun (ts, arguments) => (t :: ts, arguments)

mutual

/-- The weight of a reading. A plain type name, a conversion and an instance count against it, type
arguments for it. -/
def weight : Tree → Int
  | node _ kind _ children =>
    match kind with
    | .typeIdentifier => -1
    | .genericType =>
      weights children +
        (if (children.head?.map Tree.kind) = some .typeIdentifier then 4 else 3)
    | .typeArguments => weights children + 2
    | .qualifiedType => 0
    | .conversion | .typeInstantiation => weights children - 1
    | _ => weights children

def weights : List Tree → Int
  | [] => 0
  | t :: ts => weight t + weights ts

end

def heavier : Option Tree → Option Tree → Option Tree
  | some first, some second => if first.weight < second.weight then some second else some first
  | first?, second? => first? <|> second?

def instance? (role : Role) (span : Span) (operand : Tree) (arguments : List Tree) :
    Option Tree :=
  match asType? .base operand, asTypes? .instantiating arguments with
  | some type, some types => some (node role .typeInstantiation span (type :: types))
  | _, _ => none

mutual

/-- The expression that stands behind no call. Brackets around a type instantiate the operand where
that weighs as much as the index; a list of types always does. A type is an expression only if it
ends in type arguments. -/
def expression? : Tree → Option Tree
  | node role kind span children =>
    match kind, children with
    | .indexExpression, operand :: arguments =>
      heavier (instance? role span operand arguments)
        (match expression? operand, expressions? arguments with
        | some operand, some arguments =>
          some (node role .indexExpression span (operand.withRole .operand :: arguments))
        | _, _ => none)
    | .typeInstantiation, operand :: arguments => instance? role span operand arguments
    | .parenthesizedExpression, children | .unaryExpression _, children
    | .binaryExpression _, children => (expressions? children).map (node role kind span)
    | _, _ =>
      if (node role kind span children).isType then
        (splitArguments? (node role kind span children)).map fun (type, arguments) =>
          node role .typeInstantiation span (type :: arguments)
      else some (node role kind span children)

def expressions? : List Tree → Option (List Tree)
  | [] => some []
  | t :: ts =>
    match expression? t, expressions? ts with
    | some t, some ts => some (t :: ts)
    | _, _ => none

end

def isReadable (place : TypePlace) (t : Tree) : Bool :=
  t.expression?.isSome || (asType? place t).isSome

def settleFirst? (role : Role) (t : Tree) : Option Tree :=
  match t with
  | node own kind span (first :: rest) =>
    first.expression?.map fun first => node own kind span (first.withRole role :: rest)
  | _ => none

def bracketed? (t : Tree) : Option Tree :=
  match (t.children.filter fun child => child.kind != .comment).getLast? with
  | none => none
  | some inner =>
    if inner.kind = .sliceBounds then settleFirst? .operand (t.withKind .sliceExpression)
    else if inner.kind = .typeArguments then some (t.withKind .typeInstantiation)
    else some t

def isSingleArgument (arguments : Tree) : Bool :=
  match arguments.children.filter fun child => child.kind != .comment with
  | [argument] => argument.kind != .variadicArgument
  | _ => false

def conversion? (role : Role) (span : Span) (type : Tree) (arguments : List Tree) :
    Option Tree :=
  if arguments.any fun child => child.kind == .argumentList && isSingleArgument child then
    (asType? .base type).map fun type =>
      node role .conversion span (type.withRole .type :: arguments)
  else none

def callArgument? : Tree → Option (List Tree)
  | node _ .typeArguments _ (first :: rest) =>
    match asType? .calling first, asTypes? .argument rest with
    | some first, some rest => some (first :: rest)
    | _, _ => none
  | t => (asType? .calling t).map ([·])

def callArguments? : List Tree → Option (List Tree)
  | [] => some []
  | t :: ts =>
    match callArgument? t, callArguments? ts with
    | some first, some rest => some (first ++ rest)
    | _, _ => none

def instantiatedCall? (role : Role) (span : Span) (callee : Tree) (arguments : List Tree) :
    Option Tree :=
  match callee with
  | node _ kind _ (operand :: types) =>
    if kind = .indexExpression ∨ kind = .typeInstantiation then
      match operand.expression?, callArguments? types with
      | some function, some types =>
        some (node role .callExpression span
          (function.withRole .function :: node .plain .typeArguments callee.span types ::
            arguments))
      | _, _ => none
    else none
  | _ => none

def called? (t : Tree) : Option Tree :=
  match t with
  | node role _ span (callee :: arguments) =>
    heavier (conversion? role span callee arguments)
      (heavier
        (callee.expression?.map fun function =>
          node role .callExpression span (function.withRole .function :: arguments))
        (instantiatedCall? role span callee arguments))
  | _ => none

/-- A conversion or an instantiated call whose argument list begins a line, `t` being what stands
before it. A single argument might as well be a statement by itself, so the reading must weigh as
much as `t` and the argument apart. -/
def calledAcrossLine? (t call : Tree) : Option Tree :=
  match call with
  | node role _ span (callee :: arguments) =>
    match heavier (conversion? role span callee arguments)
        (instantiatedCall? role span callee arguments), t.expression? with
    | some call, some apart =>
      if arguments.any isSingleArgument ∧ call.weight < apart.weight + weights arguments then none
      else some call
    | call?, _ => call?
  | _ => none

def literalType? (t : Tree) : Option Tree :=
  match t.kind with
  | .mapType | .sliceType | .arrayType | .implicitLengthArrayType | .structType => some t
  | .identifier | .selectorExpression => baseType? .base t
  | .indexExpression | .typeInstantiation => asType? .base t
  | .negatedType => if t.splitArguments?.isSome then some t else none
  | _ => none

def isNamedLiteral (t : Tree) : Bool :=
  match t.literalType?, t.expression? with
  | some type, some apart => apart.weight ≤ type.weight
  | _, _ => false

def literal? (t : Tree) : Option Tree :=
  match t with
  | node role _ span (type :: rest) =>
    (literalType? type).map fun type =>
      node role .compositeLiteral span (type.withRole .type :: rest)
  | _ => none

end Tree

end TestReach.Source
