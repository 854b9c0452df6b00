import TestReach.Source.Parser
import TestReach.Source.Reading
import TestReach.Source.Rule

/-!
# The grammar of Go sources

One rule for each name of `Name`. A word is a keyword only where the grammar can go on with that
keyword; elsewhere it is an identifier. A newline ends what is being read only where that may end;
elsewhere it is a blank. The grammar is wider than the language: declarations and statements may
follow each other in any order at the top of a file. Operators associate to the left whatever their
precedence, since nothing drawn from a tree depends on how operands are grouped.
-/

namespace TestReach.Source

namespace Grammar

open Rule

inductive Literals
  | all
  | named
  /-- As `named`, but a block may follow: the literal must be seen to go on behind its brace. -/
  | namedBeforeBlock
deriving DecidableEq

structure Mode where
  newlineEnds : Bool
  literals : Literals
  inStatement : Bool
  types : Bool
  inSwitchHeader : Bool
  inCase : Bool

namespace Mode

def statements : Mode := ⟨true, .all, true, false, false, false⟩

def caseStatements : Mode := { statements with inCase := true }

def bracketed : Mode := ⟨false, .all, false, false, false, false⟩

def header : Mode := ⟨false, .namedBeforeBlock, true, false, false, false⟩

def switchHeader : Mode := { header with inSwitchHeader := true }

def communication : Mode := { bracketed with inStatement := true }

def withTypes (m : Mode) : Mode := { m with types := true }

def acrossLines (m : Mode) : Mode := { m with newlineEnds := false }

def inner (m : Mode) : Mode := { m with inStatement := false }

def operand (m : Mode) : Mode :=
  { m with inStatement := false, types := false, inSwitchHeader := false }

end Mode

inductive Name
  | topLevel | identifiers
  | importSpecs | constSpecs | varSpecs | typeSpecs | typeParameters
  | parameters | parameterNames | type | typeElement | typeArguments | types
  | fields | fieldNames | elements
  | block | statements (inCase : Bool) | statement
  | expressions | simple (after : Literals) | ifStatement
  | expressionCases | typeCases | communicationCases
  | expression | unary | operand | brackets | moreTypeArguments
  | arguments | plainArguments | literalValue | literalElements

abbrev Reading := Rule Mode Name

def into (kind : Kind) (rest : Reading) (finish : Tree → Option Tree) : Option (Growth Reading) :=
  some ⟨kind, rest, finish, false⟩

def perhapsInto (kind : Kind) (rest : Reading) (finish : Tree → Option Tree) :
    Option (Growth Reading) :=
  some ⟨kind, rest, finish, true⟩

/-! ## Looking ahead -/

def ahead : List Token → List Token
  | [] => []
  | t :: ts => if t.lexeme = .newline ∨ t.lexeme = .comment then ahead ts else t :: ts

def next (ts : List Token) : Lexeme :=
  match ahead ts with
  | [] => .ending
  | t :: _ => t.lexeme

def second (ts : List Token) : Lexeme := next ((ahead ts).drop 1)

def third (ts : List Token) : Lexeme := next ((ahead ((ahead ts).drop 1)).drop 1)

def newlineFirst : List Token → Bool
  | [] => false
  | t :: ts =>
    match t.lexeme with
    | .newline => true
    | .comment => newlineFirst ts
    | _ => false

def goesOn (m : Mode) (ts : List Token) : Bool :=
  !(m.newlineEnds && newlineFirst ts)

def openBrace : String := "\x7b"
def closeBrace : String := "\x7d"

def isSymbol (text : String) (l : Lexeme) : Bool := l == .symbol text

def isWord (text : String) (l : Lexeme) : Bool := l == .word text

def isAnyWord : Lexeme → Bool
  | .word _ => true
  | _ => false

def isLiteral : Lexeme → Bool
  | .number | .rune | .text => true
  | _ => false

def wordIn (words : List String) : Lexeme → Bool
  | .word text => words.contains text
  | _ => false

def symbolIn (symbols : List String) : Lexeme → Bool
  | .symbol text => symbols.contains text
  | _ => false

def typeKeywords : List String := ["func", "struct", "interface", "map", "chan"]

def caseKeywords : List String := ["case", "default"]

def predeclaredWords : List String := ["nil", "true", "false", "iota"]

def allocatorWords : List String := ["new", "make"]

def binaryOperators : List String :=
  ["*", "/", "%", "<<", ">>", "&", "&^", "+", "-", "|", "^", "==", "!=", "<", "<=", ">", ">=",
   "&&", "||"]

def unaryOperators : List Char := ['+', '-', '!', '^', '*', '&']

def assignmentOperators : List String :=
  ["=", "*=", "/=", "%=", "<<=", ">>=", "&=", "&^=", "+=", "-=", "|=", "^="]

def infixOperators : List String := binaryOperators.filter fun operator =>
  !(operator.toList.all unaryOperators.contains)

/-- Whether a header goes on behind the closing brace that belongs to the brace ahead: with its
block, or with more of an expression. On a further line, what may begin a statement does so. -/
def literalGoesOn (inSwitch : Bool) (ts : List Token) : Bool :=
  go 0 (ahead ts)
where
  go : Nat → List Token → Bool
    | _, [] => false
    | depth, t :: rest =>
      if isSymbol openBrace t.lexeme then go (depth + 1) rest
      else if isSymbol closeBrace t.lexeme then
        if depth ≤ 1 then behind rest else go (depth - 1) rest
      else go depth rest
  behind (rest : List Token) : Bool :=
    match next rest with
    | .symbol text =>
      if text == openBrace then
        !inSwitch || isSymbol closeBrace (second rest) || wordIn caseKeywords (second rest)
      else if newlineFirst rest then text == "." || infixOperators.contains text
      else !([";", ")", "]", ",", ":", "\x00", closeBrace].contains text)
    | _ => false

def terminates (ts : List Token) : Bool :=
  newlineFirst ts || symbolIn [";", "\x00"] (next ts)

def closes (m : Mode) (ts : List Token) : Bool :=
  symbolIn [";", ")", closeBrace, "\x00"] (next ts) || next ts == .ending
    || m.inCase && wordIn caseKeywords (next ts)

/-! ## Small rules -/

def symbol (text : String) : Reading := take (isSymbol text)

def word (text : String) : Reading := take (isWord text)

def sequence : List Reading → Reading
  | [] => done
  | [r] => r
  | r :: rs => seq r (sequence rs)

def anyWord (kind : Kind) : Reading := leaf .plain kind isAnyWord

def when (passes : Lexeme → Bool) (r : Reading) : Reading :=
  look fun m ts => if goesOn m ts && passes (next ts) then r else done

def either (passes : Lexeme → Bool) (r otherwise : Reading) : Reading :=
  look fun _ ts => if passes (next ts) then r else otherwise

def growInto (kind : Kind) (passes : Lexeme → Bool) (rest : Reading) : Reading :=
  grow fun m ts t =>
    if t.kind != kind && goesOn m ts && passes (next ts) then into kind rest some else none

def check (passes : Tree → Bool) : Reading :=
  settle fun _ t => if passes t then some t else none

def before (text : String) : Reading := either (isSymbol text) done fail

def asRole (role : Role) : Reading := settle fun _ t => some (t.withRole role)

def inBrackets (opening : String) (r : Reading) (closing : String) : Reading :=
  sequence [symbol opening, within (fun _ => .bracketed) r, symbol closing]

def commaThen (closing : String) (rest : Reading) : Reading :=
  either (isSymbol ",") (seq (symbol ",") (either (isSymbol closing) done rest)) done

def terminator : Reading :=
  look fun _ ts =>
    if newlineFirst ts then take (· == .newline) else take (symbolIn [";", "\x00"])

def lines (closing : String) (line rest : Reading) : Reading :=
  either (isSymbol closing) done
    (seq line (look fun _ ts => if terminates ts then seq terminator rest else done))

def closedLines (line rest : Reading) : Reading :=
  either (isSymbol ")") done (sequence [line, terminator, rest])

def group (specs : Reading) : Reading :=
  sequence [symbol "(", within (fun _ => .statements) specs, symbol ")"]

def notAtEnd : Reading :=
  look fun _ ts => if !newlineFirst ts && next ts == .ending then fail else done

/-! ## Types -/

def typeName : Reading :=
  seq (anyWord .typeIdentifier)
    (grow fun m ts t =>
      if !goesOn m ts then none
      else if t.kind == .typeIdentifier && isSymbol "." (next ts) then
        into .qualifiedType (seq (symbol ".") (anyWord .typeIdentifier)) fun t =>
          match t.children with
          | package :: rest => some (t.withChildren (package.withKind .packageIdentifier :: rest))
          | [] => none
      else if (t.kind == .typeIdentifier || t.kind == .qualifiedType)
          && isSymbol "[" (next ts) then
        into .genericType (inBrackets "[" (name .typeArguments) "]") fun t =>
          match t.children with
          | base :: rest => some (t.withChildren (base.withRole .type :: rest))
          | [] => none
      else none)

def parameterList (role : Role) : Reading :=
  node role .parameterList (inBrackets "(" (name .parameters) ")")

def result : Reading :=
  look fun m ts =>
    if !goesOn m ts then done
    else if isSymbol "(" (next ts) then parameterList .plain
    else if isAnyWord (next ts) || symbolIn ["*", "[", "~"] (next ts)
        || isSymbol "<-" (next ts) && isWord "chan" (second ts) then name .type
    else done

def signature : Reading := seq (parameterList .plain) result

def functionType : Reading := node .plain .functionType (seq (word "func") signature)

def structType : Reading :=
  node .plain .structType
    (sequence [word "struct", symbol openBrace, within (fun _ => .statements) (name .fields),
      symbol closeBrace])

def interfaceType : Reading :=
  node .plain .interfaceType
    (sequence [word "interface", symbol openBrace,
      within (fun _ => .statements) (name .elements), symbol closeBrace])

def mapType : Reading :=
  node .plain .mapType (sequence [word "map", inBrackets "[" (name .type) "]", name .type])

def channelType : Reading :=
  node .plain .channelType
    (either (isSymbol "<-")
      (sequence [symbol "<-", word "chan", name .type])
      (sequence [word "chan", either (isSymbol "<-") (symbol "<-") done, name .type]))

def sliceType : Reading :=
  node .plain .sliceType (sequence [symbol "[", symbol "]", name .type])

def arrayType : Reading :=
  node .plain .arrayType (seq (inBrackets "[" (name .expression) "]") (name .type))

def implicitLengthArrayType : Reading :=
  node .plain .implicitLengthArrayType
    (sequence [symbol "[", symbol "...", symbol "]", name .type])

def elementsType (ts : List Token) : Reading :=
  if isSymbol "]" (second ts) then sliceType else arrayType

def negatedType : Reading := node .plain .negatedType (seq (symbol "~") (name .type))

def type : Reading :=
  look fun _ ts =>
    match next ts with
    | .word text =>
      match text with
      | "func" => functionType
      | "struct" => structType
      | "interface" => interfaceType
      | "map" => mapType
      | "chan" => channelType
      | _ => typeName
    | .symbol text =>
      match text with
      | "(" => node .plain .parenthesizedType (inBrackets "(" (name .type) ")")
      | "*" => node .plain .pointerType (seq (symbol "*") (name .type))
      | "~" => negatedType
      | "<-" => channelType
      | "[" => elementsType ts
      | _ => fail
    | _ => fail

def typeElement : Reading :=
  seq (name .type)
    (grow fun m ts _ =>
      if goesOn m ts && isSymbol "|" (next ts) then
        into .unionType (seq (symbol "|") (name .type)) some
      else none)

def typeArguments : Reading := seq (name .typeElement) (commaThen "]" (name .typeArguments))

def types : Reading :=
  seq (name .type) (either (isSymbol ",") (seq (symbol ",") (name .types)) done)

def isName (l : Lexeme) : Bool := isAnyWord l && !wordIn typeKeywords l

def parameterNames : Reading :=
  seq (anyWord .identifier)
    (either (isSymbol ",") (seq (symbol ",") (name .parameterNames)) done)

def typeOfParameter : Reading := seq (name .type) (asRole .type)

def parameter : Reading :=
  look fun _ ts =>
    let named :=
      seq (node .plain .parameterDeclaration (seq (name .parameterNames) typeOfParameter))
        (either (symbolIn [",", ")"]) done fail)
    let unnamed := node .plain .parameterDeclaration typeOfParameter
    if isSymbol "..." (next ts) then
      node .plain .variadicParameterDeclaration (seq (symbol "...") typeOfParameter)
    else if isName (next ts) then
      if isSymbol "..." (second ts) then
        node .plain .variadicParameterDeclaration
          (sequence [anyWord .identifier, symbol "...", typeOfParameter])
      else if symbolIn [")", "."] (second ts) then unnamed
      else if isSymbol "[" (second ts)
          && wordIn (allocatorWords ++ predeclaredWords) (third ts) then named
      else orElse named unnamed
    else unnamed

def parameters : Reading :=
  look fun _ ts =>
    if isSymbol ")" (next ts) then done
    else if isSymbol "," (next ts) then symbol ","
    else seq parameter
      (either (isSymbol ",")
        (seq (symbol ",") (either (isSymbol ")") done (name .parameters)))
        done)

def fieldNames : Reading :=
  seq (anyWord .fieldIdentifier) (when (isSymbol ",") (seq (symbol ",") (name .fieldNames)))

def field : Reading :=
  let embedded := seq (either (isSymbol "*") (symbol "*") done) typeName
  let named := seq (name .fieldNames) (name .type)
  node .plain .fieldDeclaration
    (seq
      (look fun m ts =>
        if !isAnyWord (next ts) then embedded
        else if !goesOn m ((ahead ts).drop 1) then embedded
        else if symbolIn [".", ";", "\x00", closeBrace] (second ts) || second ts == .text then
          embedded
        else if isSymbol "[" (second ts) then orElse named embedded
        else named)
      (when (· == .text) (leaf .plain .literal (· == .text))))

def fields : Reading := lines closeBrace field (name .fields)

def element : Reading :=
  look fun m ts =>
    if isName (next ts) && goesOn m ((ahead ts).drop 1) && isSymbol "(" (second ts) then
      node .plain .methodElement (seq (anyWord .fieldIdentifier) signature)
    else name .typeElement

def elements : Reading := lines closeBrace element (name .elements)

/-! ## Expressions -/

def argumentList : Reading :=
  node .plain .argumentList
    (inBrackets "("
      (look fun _ ts =>
        if isSymbol ")" (next ts) then done
        else if isSymbol "," (next ts) then symbol ","
        else name .arguments)
      ")")

def arguments : Reading :=
  sequence [name .expression, growInto .variadicArgument (isSymbol "...") (symbol "..."),
    commaThen ")" (name .arguments)]

def allocatorArguments : Reading :=
  node .plain .argumentList
    (inBrackets "("
      (either (isSymbol ")") done (seq (name .type) (commaThen ")" (name .plainArguments))))
      ")")

def plainArguments : Reading := seq (name .expression) (commaThen ")" (name .plainArguments))

def literalValue : Reading :=
  node .plain .literalValue
    (inBrackets openBrace
      (look fun _ ts =>
        if isSymbol closeBrace (next ts) then done
        else if isSymbol "," (next ts) then symbol ","
        else name .literalElements)
      closeBrace)

def literalElements : Reading :=
  let element := either (isSymbol openBrace) (name .literalValue) (name .expression)
  sequence [element, growInto .keyedElement (isSymbol ":") (seq (symbol ":") element),
    commaThen closeBrace (name .literalElements)]

def function : Reading :=
  seq
    (node .plain .funcLiteral
      (sequence [word "func", within Mode.acrossLines signature,
        either (isSymbol openBrace) (seq (name .block) (asRole .body)) done]))
    (settle fun _ t =>
      some (if (t.child? .body).isSome then t else t.withKind .functionType))

def parenthesized : Reading :=
  seq
    (node .plain .parenthesizedExpression
      (inBrackets "(" (within Mode.withTypes (name .expression)) ")"))
    (check (Tree.isReadable .instantiating))

def operand : Reading :=
  look fun _ ts =>
    match next ts with
    | .word text =>
      match text with
      | "func" => function
      | "struct" => within Mode.acrossLines structType
      | "interface" => within Mode.acrossLines interfaceType
      | "map" => within Mode.acrossLines mapType
      | "chan" => within Mode.acrossLines channelType
      | _ =>
        if allocatorWords.contains text then leaf .plain .allocator (wordIn allocatorWords)
        else if predeclaredWords.contains text then
          leaf .plain .predeclared (wordIn predeclaredWords)
        else anyWord .identifier
    | .symbol text =>
      match text with
      | "(" => parenthesized
      | "[" =>
        within Mode.acrossLines
          (if isSymbol "..." (second ts) then implicitLengthArrayType else elementsType ts)
      | "<-" => within Mode.acrossLines channelType
      | "~" => within Mode.acrossLines negatedType
      | _ => fail
    | .number | .rune | .text => leaf .plain .literal isLiteral
    | _ => fail

def boundsRest : Reading :=
  let bound := within Mode.operand (name .expression)
  seq (symbol ":")
    (either (isSymbol "]") done
      (seq bound (either (isSymbol ":") (seq (symbol ":") bound) done)))

def moreTypeArguments : Reading :=
  seq (name .expression) (commaThen "]" (name .moreTypeArguments))

def brackets : Reading :=
  either (isSymbol ":") (node .plain .sliceBounds boundsRest)
    (seq (name .expression)
      (grow fun _ ts t =>
        if t.kind == .sliceBounds || t.kind == .typeArguments then none
        else if isSymbol ":" (next ts) && t.expression?.isSome then
          into .sliceBounds boundsRest (Tree.settleFirst? .plain)
        else if isSymbol "," (next ts) then
          into .typeArguments (commaThen "]" (name .moreTypeArguments)) some
        else none))

def literalFollows (m : Mode) (ts : List Token) (t : Tree) : Bool :=
  t.literalType?.isSome
    && (t.expression?.isNone ||
      match m.literals with
      | .all => true
      | .named => t.kind != .identifier
      | .namedBeforeBlock => t.kind != .identifier && literalGoesOn m.inSwitchHeader ts)

/-- How an operand goes on behind the end of its line: as a type with more than one name, which
nothing could end there, and only if that reading weighs as much as the operand by itself. -/
def acrossLine (ts : List Token) (t : Tree) : Option (Growth Reading) :=
  match next ts with
  | .symbol "(" => perhapsInto .callExpression argumentList (Tree.calledAcrossLine? t)
  | .symbol "\x7b" =>
    if t.kind != .identifier && t.isNamedLiteral then
      perhapsInto .compositeLiteral (name .literalValue) Tree.literal?
    else none
  | _ => none

def suffix (m : Mode) (ts : List Token) (t : Tree) : Option (Growth Reading) :=
  if !goesOn m ts && t.expression?.isSome then acrossLine ts t
  else match next ts with
    | .symbol "." =>
      if isSymbol "(" (second ts) then
        if m.inSwitchHeader && isWord "type" (third ts) then none
        else into .typeAssertion (seq (symbol ".") (inBrackets "(" (name .type) ")"))
          (Tree.settleFirst? .operand)
      else into .selectorExpression
        (seq (symbol ".") (leaf .field .fieldIdentifier isAnyWord)) (Tree.settleFirst? .operand)
    | .symbol "[" =>
      into .indexExpression
        (sequence [symbol "[",
          within (fun _ => Mode.bracketed.withTypes) (name .brackets), symbol "]"])
        Tree.bracketed?
    | .symbol "(" =>
      into .callExpression
        (if t.kind == .allocator then allocatorArguments else argumentList) Tree.called?
    | .symbol "\x7b" =>
      if literalFollows m ts t then
        let literal := if m.literals = .namedBeforeBlock then perhapsInto else into
        literal .compositeLiteral (name .literalValue) Tree.literal?
      else none
    | _ => none

def primary : Reading :=
  sequence [name .operand, grow suffix,
    settle fun m t =>
      if !m.types then t.expression? else if t.isReadable .argument then some t else none]

def unary : Reading :=
  look fun _ ts =>
    match next ts with
    | .symbol text =>
      if text = "<-" then
        if isWord "chan" (second ts) then primary
        else node .plain (.unaryExpression "<-")
          (seq (symbol "<-") (within Mode.operand (name .unary)))
      else match text.toList.head? with
        | some c =>
          if unaryOperators.contains c then
            let asOperand (m : Mode) : Mode := { m.operand with types := m.types && c == '*' }
            node .plain (.unaryExpression (String.singleton c))
              (seq (takeFirst (· == c)) (within asOperand (name .unary)))
          else primary
        | none => primary
    | _ => primary

/-- How an expression goes on behind an operand. An operator that only a statement knows is cut
after its first character. -/
def binary (m : Mode) (ts : List Token) (t : Tree) :
    Option (Growth Reading) :=
  match next ts with
  | .symbol text =>
    if !goesOn m ts then none
    else if text = "|" && m.types then
      into (.binaryExpression text)
        (seq (symbol text) (within (fun m => m.operand.withTypes) (name .unary)))
        fun t => if t.isReadable .argument then some t else none
    else if t.expression?.isNone then none
    else if binaryOperators.contains text then
      into (.binaryExpression text) (seq (symbol text) (within Mode.operand (name .unary))) some
    else if ["<-", "++", "--"].contains text && !m.inStatement then
      into (.binaryExpression (String.ofList (text.toList.take 1)))
        (seq (takeFirst fun _ => true) (within Mode.operand (name .unary))) some
    else none
  | _ => none

def expression : Reading := seq (name .unary) (grow binary)

def expressions : Reading :=
  seq (name .expression) (when (isSymbol ",") (seq (symbol ",") (name .expressions)))

/-! ## Statements -/

def expressionList : Reading :=
  node .plain .expressionList
    (seq (name .expression)
      (when (isSymbol ",")
        (seq (symbol ",")
          (within (fun m => { m.inner with literals := .all, newlineEnds := false })
            (name .expressions)))))

def isSingle (t : Tree) : Bool :=
  (t.children.filter fun child => child.kind != .comment).length == 1

def statementTail (after : Literals) (m : Mode) (ts : List Token) (t : Tree) :
    Option (Growth Reading) :=
  let values (rest : Reading) : Reading :=
    within (fun m => { m.inner with literals := after }) rest
  match next ts with
  | .symbol text =>
    if t.kind != .expressionList || isSingle t && !goesOn m ts then none
    else if text = ":=" then
      into .shortVarDeclaration (seq (symbol text) (values (name .expressions))) some
    else if assignmentOperators.contains text then
      into .assignment (seq (symbol text) (values (name .expressions))) some
    else if !isSingle t then none
    else if text = "++" || text = "--" then into .incrementStatement (symbol text) some
    else if text = "<-" then
      into .sendStatement (seq (symbol text) (values (name .expression))) some
    else none
  | _ => none

def isBare (t : Tree) : Bool := t.kind == .expressionList && isSingle t

def isSimple (t : Tree) : Bool := t.kind != .expressionList || isSingle t

def simple (after : Literals) : Reading :=
  sequence [expressionList, grow (statementTail after), check isSimple]

def block : Reading :=
  node .plain .block
    (sequence [symbol openBrace, within (fun _ => .statements) (name (.statements false)),
      symbol closeBrace])

def body : Reading := seq (name .block) (asRole .body)

def statements (inCase : Bool) : Reading :=
  look fun _ ts =>
    if isSymbol closeBrace (next ts) || inCase && wordIn caseKeywords (next ts) then done
    else seq (name .statement)
      (look fun _ ts =>
        if terminates ts then seq terminator (name (.statements inCase)) else done)

def ended (m : Mode) (ts : List Token) : Bool :=
  isSymbol closeBrace (next ts) || m.inCase && wordIn caseKeywords (next ts)

def isLabeled (ts : List Token) : Bool :=
  isName (next ts) && !(allocatorWords ++ predeclaredWords).any (isWord · (next ts))
    && isSymbol ":" (second ts) && !newlineFirst ((ahead ts).drop 1)

def labeledStatement : Reading :=
  node .plain .labeledStatement
    (sequence [anyWord .labelName, symbol ":",
      look fun m ts =>
        if ended m ts then done
        else if isLabeled ts && ended m ((ahead ((ahead ts).drop 1)).drop 1) then fail
        else name .statement])

def returnStatement : Reading :=
  node .plain .returnStatement
    (seq (word "return")
      (look fun m ts =>
        if !goesOn m ts || closes m ts then done
        else within Mode.inner (name .expressions)))

def branchStatement (text : String) : Reading :=
  node .plain .branchStatement
    (seq (word text)
      (look fun m ts =>
        if text = "goto" then anyWord .labelName
        else if text = "fallthrough" || !goesOn m ts || closes m ts then done
        else anyWord .labelName))

def concurrentStatement (kind : Kind) (text : String) : Reading :=
  node .plain kind (seq (word text) (within Mode.inner (name .expression)))

def initially : Reading :=
  seq (within (fun m => { m with literals := .named }) (name (.simple .all))) (symbol ";")

def ifStatement : Reading :=
  node .plain .ifStatement
    (sequence [word "if",
      within (fun _ => .header)
        (orElse
          (sequence [initially, within Mode.inner (name .expression), before openBrace])
          (name .expression)),
      name .block,
      when (isWord "else")
        (sequence [word "else",
          either (isSymbol openBrace) (name .block) (name .ifStatement),
          asRole .alternative])])

def rangeRest : Reading := seq (word "range") (within Mode.inner (name .expression))

def clauseRest : Reading :=
  sequence [symbol ";",
    either (isSymbol ";") done
      (within (fun m => { m.inner with literals := .all }) (name .expression)),
    symbol ";",
    either (isSymbol openBrace) done (seq (name (.simple .namedBeforeBlock)) (asRole .update))]

def rangeFollows (ts : List Token) : Bool :=
  symbolIn [":=", "="] (next ts) && isWord "range" (second ts)

def clauses : Reading :=
  sequence [
    within (fun m => { m with literals := .named })
      (sequence [expressionList,
        grow fun m ts t => if rangeFollows ts then none else statementTail .all m ts t,
        check isSimple]),
    grow fun _ ts t =>
      if t.kind != .forClause && isSymbol ";" (next ts) then into .forClause clauseRest some
      else none,
    check fun t => t.kind == .forClause]

def forHeader : Reading :=
  look fun _ ts =>
    if isSymbol openBrace (next ts) then done
    else if isSymbol ";" (next ts) then node .plain .forClause clauseRest
    else if isWord "range" (next ts) then node .plain .rangeClause rangeRest
    else orElse clauses
      (sequence [expressionList,
        grow fun _ ts t =>
          if t.kind == .expressionList && rangeFollows ts then
            into .rangeClause (seq (take (symbolIn [":=", "="])) rangeRest) some
          else none,
        check fun t => t.kind == .rangeClause || isBare t])

def forStatement : Reading :=
  node .plain .forStatement
    (sequence [word "for", within (fun _ => .header) forHeader, body])

def caseBody : Reading :=
  seq (symbol ":") (within (fun _ => .caseStatements) (name (.statements true)))

def defaultCase : Reading := node .plain .defaultCase (seq (word "default") caseBody)

def cases (kind : Kind) (mode : Mode) (what rest : Reading) : Reading :=
  look fun _ ts =>
    if isWord "case" (next ts) then
      seq (node .plain kind (sequence [word "case", within (fun _ => mode) what, caseBody])) rest
    else if isWord "default" (next ts) then seq defaultCase rest
    else done

def expressionCases : Reading :=
  cases .expressionCase .bracketed (name .expressions) (name .expressionCases)

def typeCases : Reading := cases .typeCase .bracketed (name .types) (name .typeCases)

def communication : Reading :=
  sequence [expressionList,
    grow fun m ts t =>
      if t.kind != .expressionList then none
      else if symbolIn [":=", "="] (next ts) then
        into .assignment
          (seq (take (symbolIn [":=", "="])) (within Mode.inner (name .expression))) some
      else if isSymbol "<-" (next ts) then statementTail .all m ts t
      else none,
    check isSimple]

def communicationCases : Reading :=
  cases .communicationCase .communication communication (name .communicationCases)

def isGuarded (t : Tree) : Bool :=
  isBare t || t.kind == .shortVarDeclaration
    && (t.children.filter fun child => child.kind != .comment).length == 2

def switchValue : Reading :=
  either (isSymbol openBrace) done
    (sequence [expressionList,
      grow fun m ts t =>
        if isSymbol ":=" (next ts) then statementTail .all m ts t else none,
      look fun _ ts => if isSymbol "." (next ts) then check isGuarded else check isBare])

def switchStatement : Reading :=
  node .plain .switchStatement
    (sequence [word "switch",
      within (fun _ => .switchHeader)
        (orElse
          (sequence [initially, switchValue,
            either (isSymbol ".") done (before openBrace)])
          switchValue),
      either (isSymbol ".")
        (sequence [
          node .plain .typeGuard (sequence [symbol ".", symbol "(", word "type", symbol ")"]),
          symbol openBrace, name .typeCases, symbol closeBrace])
        (sequence [symbol openBrace, name .expressionCases, symbol closeBrace])])

def selectStatement : Reading :=
  node .plain .selectStatement
    (sequence [word "select", symbol openBrace, name .communicationCases, symbol closeBrace])

/-! ## Declarations -/

def identifiers : Reading :=
  seq (anyWord .identifier) (when (isSymbol ",") (seq (symbol ",") (name .identifiers)))

def constSpec : Reading :=
  node .plain .constSpec
    (seq (name .identifiers)
      (look fun m ts =>
        if !goesOn m ts || closes m ts then done
        else sequence [either (isSymbol "=") done (name .type), symbol "=",
          within Mode.inner (name .expressions)]))

def values : Reading := seq (symbol "=") (within Mode.inner (name .expressions))

def varSpec : Reading :=
  node .plain .varSpec
    (seq (name .identifiers)
      (either (isSymbol "=") values
        (sequence [name .type, notAtEnd, when (isSymbol "=") values])))

def typeParameters : Reading :=
  seq (node .plain .typeParameterDeclaration (seq (name .identifiers) (name .typeElement)))
    (commaThen "]" (name .typeParameters))

def typeParameterList : Reading :=
  node .plain .typeParameterList (inBrackets "[" (name .typeParameters) "]")

def typeSpec : Reading :=
  let aliased := seq (either (isSymbol "=") (symbol "=") done) (name .type)
  node .plain .typeSpec
    (sequence [leaf .name .typeIdentifier isAnyWord,
      either (isSymbol "[") (orElse (seq typeParameterList aliased) (name .type)) aliased,
      notAtEnd])

def constDeclaration : Reading :=
  node .plain .constDeclaration
    (seq (word "const") (either (isSymbol "(") (group (name .constSpecs)) constSpec))

def varDeclaration : Reading :=
  node .plain .varDeclaration
    (seq (word "var") (either (isSymbol "(") (group (name .varSpecs)) varSpec))

def typeDeclaration : Reading :=
  node .plain .typeDeclaration
    (seq (word "type") (either (isSymbol "(") (group (name .typeSpecs)) typeSpec))

def statement : Reading :=
  look fun _ ts =>
    match next ts with
    | .word text =>
      match text with
      | "const" => constDeclaration
      | "var" => varDeclaration
      | "type" => typeDeclaration
      | "return" => returnStatement
      | "go" => concurrentStatement .goStatement "go"
      | "defer" => concurrentStatement .deferStatement "defer"
      | "if" => name .ifStatement
      | "for" => forStatement
      | "switch" => switchStatement
      | "select" => selectStatement
      | "fallthrough" | "break" | "continue" | "goto" => branchStatement text
      | _ =>
        if isLabeled ts then labeledStatement else name (.simple .all)
    | .symbol text =>
      match text with
      | ";" => node .plain .emptyStatement (symbol ";")
      | "\x7b" => name .block
      | _ => name (.simple .all)
    | _ => name (.simple .all)

/-! ## Files -/

def packageClause : Reading :=
  node .plain .packageClause (seq (word "package") (anyWord .packageIdentifier))

def importSpec : Reading :=
  node .plain .importSpec
    (seq
      (look fun _ ts =>
        if isSymbol "." (next ts) || isAnyWord (next ts) then
          leaf .name .packageIdentifier fun l => isSymbol "." l || isAnyWord l
        else done)
      (leaf .path .literal (· == .text)))

def importDeclaration : Reading :=
  node .plain .importDeclaration
    (seq (word "import") (either (isSymbol "(") (group (name .importSpecs)) importSpec))

def functionDeclaration : Reading :=
  node .plain .functionDeclaration
    (sequence [word "func", leaf .name .identifier isAnyWord,
      either (isSymbol "[") typeParameterList done,
      signature, when (isSymbol openBrace) body])

def methodDeclaration : Reading :=
  node .plain .methodDeclaration
    (sequence [word "func", parameterList .receiver, leaf .name .fieldIdentifier isName,
      signature, when (isSymbol openBrace) body])

def topLevelItem : Reading :=
  look fun _ ts =>
    match next ts with
    | .word "package" => packageClause
    | .word "import" => importDeclaration
    | .word "func" =>
      if isAnyWord (second ts) then functionDeclaration
      else orElse methodDeclaration (name .statement)
    | _ => name .statement

def topLevel : Reading :=
  either (· == .ending) done
    (sequence [topLevelItem,
      look fun _ ts =>
        if terminates ts then terminator else either (· == .ending) done fail,
      name .topLevel])

def rule : Name → Reading
  | .topLevel => topLevel
  | .identifiers => identifiers
  | .importSpecs => lines ")" importSpec (name .importSpecs)
  | .constSpecs => closedLines constSpec (name .constSpecs)
  | .varSpecs => closedLines varSpec (name .varSpecs)
  | .typeSpecs => closedLines typeSpec (name .typeSpecs)
  | .typeParameters => typeParameters
  | .parameters => parameters
  | .parameterNames => parameterNames
  | .type => type
  | .typeElement => typeElement
  | .typeArguments => typeArguments
  | .types => types
  | .fields => fields
  | .fieldNames => fieldNames
  | .elements => elements
  | .block => block
  | .statements inCase => statements inCase
  | .statement => statement
  | .expressions => expressions
  | .simple after => simple after
  | .ifStatement => ifStatement
  | .expressionCases => expressionCases
  | .typeCases => typeCases
  | .communicationCases => communicationCases
  | .expression => expression
  | .unary => unary
  | .operand => operand
  | .brackets => brackets
  | .moreTypeArguments => moreTypeArguments
  | .arguments => arguments
  | .plainArguments => plainArguments
  | .literalValue => literalValue
  | .literalElements => literalElements

def file : Reading :=
  node .plain .sourceFile (within (fun _ => .statements) (name .topLevel))

end Grammar

namespace Tree

mutual

def named : Tree → Tree
  | node role kind span children =>
    node role (if kind = .allocator then .identifier else kind) span (namedAll children)

def namedAll : List Tree → List Tree
  | [] => []
  | t :: ts => named t :: namedAll ts

end

def refused (place : Position) : Tree :=
  node .plain .sourceFile ⟨.start, place⟩ [node .plain .error ⟨place, place⟩ []]

def ofSource (source : List Char) : Tree :=
  match Rule.read Grammar.rule .statements Grammar.file (Token.scan source) with
  | .ok tree => tree.named
  | .error place => refused place

end Tree

/-- The parser that the program runs with. -/
instance : Parser where
  unusable? := none
  tree? source := some (.ofSource source)

end TestReach.Source
