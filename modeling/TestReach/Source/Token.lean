import TestReach.Source.Position
import TestReach.Text.Identifier

/-!
# Tokens

A source is cut into tokens, each as long as possible. Blanks between tokens are dropped, newlines
and comments are kept. A character that begins no token is a token of its own, `stray`, which no
rule of the grammar takes. The last token of a source is `ending`.
-/

namespace TestReach.Source

inductive Lexeme
  | word (text : String)
  | number
  | rune
  | text
  | symbol (text : String)
  | newline
  | comment
  | stray
  | ending
deriving DecidableEq, Repr, Inhabited

structure Token where
  lexeme : Lexeme
  span : Span
deriving DecidableEq, Repr, Inhabited

namespace Token

-- A reader takes the characters from a place on and answers what is left behind the literal.
abbrev Reader := List Char → Option (List Char)

def isDecimal (c : Char) : Bool := '0' ≤ c && c ≤ '9'
def isOctal (c : Char) : Bool := '0' ≤ c && c ≤ '7'
def isBinary (c : Char) : Bool := c == '0' || c == '1'
def isHex (c : Char) : Bool :=
  isDecimal c || 'a' ≤ c && c ≤ 'f' || 'A' ≤ c && c ≤ 'F'

def moreDigits (isDigit : Char → Bool) : List Char → List Char
  | [] => []
  | [c] => if isDigit c then [] else [c]
  | c :: d :: cs =>
    if isDigit c then moreDigits isDigit (d :: cs)
    else if c == '_' && isDigit d then moreDigits isDigit cs
    else c :: d :: cs

def digits (isDigit : Char → Bool) : Reader
  | [] => none
  | c :: cs => if isDigit c then some (moreDigits isDigit cs) else none

def oneOf (accepted : List Char) : Reader
  | [] => none
  | c :: cs => if accepted.contains c then some cs else none

def optionally (read : Reader) : Reader :=
  fun cs => some ((read cs).getD cs)

def longest (reads : List Reader) : Reader := fun cs =>
  (reads.filterMap (· cs)).foldl (fun best rest =>
    match best with
    | none => some rest
    | some other => if rest.length < other.length then some rest else some other) none

def inOrder : List Reader → Reader
  | [] => some
  | read :: reads => fun cs => read cs >>= inOrder reads

def based (marks : List Char) (isDigit : Char → Bool) : Reader :=
  inOrder [oneOf ['0'], oneOf marks, optionally (oneOf ['_']), digits isDigit]

def integer : Reader :=
  longest
    [oneOf ['0'],
     inOrder [oneOf "123456789".toList,
        optionally (inOrder [optionally (oneOf ['_']), digits isDecimal])],
     based ['x', 'X'] isHex,
     based ['o', 'O'] isOctal,
     inOrder [oneOf ['0'], optionally (oneOf ['_']), digits isOctal],
     based ['b', 'B'] isBinary]

def exponent (marks : List Char) : Reader :=
  inOrder [oneOf marks, optionally (oneOf ['+', '-']), digits isDecimal]

def floating : Reader :=
  longest
    [inOrder [digits isDecimal, oneOf ['.'], optionally (digits isDecimal),
       optionally (exponent ['e', 'E'])],
     inOrder [digits isDecimal, exponent ['e', 'E']],
     inOrder [oneOf ['.'], digits isDecimal, optionally (exponent ['e', 'E'])],
     inOrder [oneOf ['0'], oneOf ['x', 'X'],
       longest
         [inOrder [optionally (oneOf ['_']), digits isHex, oneOf ['.'], optionally (digits isHex)],
          inOrder [optionally (oneOf ['_']), digits isHex],
          inOrder [oneOf ['.'], digits isHex]],
       exponent ['p', 'P']]]

def number : Reader :=
  longest
    [integer, floating,
     inOrder [longest [digits isDecimal, integer, floating], oneOf ['i']]]

def repeated (isMember : Char → Bool) : Nat → Reader
  | 0 => some
  | n + 1 => fun
    | [] => none
    | c :: cs => if isMember c then repeated isMember n cs else none

def rune : Reader
  | '\x27' :: '\\' :: cs =>
    inOrder
      [longest
        [inOrder [oneOf ['x'], repeated isHex 2],
         repeated isOctal 3,
         inOrder [oneOf ['u'], repeated isHex 4],
         inOrder [oneOf ['U'], repeated isHex 8],
         oneOf ['a', 'b', 'f', 'n', 'r', 't', 'v', '\\', '\x27', '\x22']],
       oneOf ['\x27']] cs
  | '\x27' :: c :: cs => if c == '\x27' || c == '\x00' then none else oneOf ['\x27'] cs
  | _ => none

/-- The rest of a quoted string, from behind its opening quote. An escape is a backslash and any
character, but `x`, `u` and `U` demand their hexadecimal digits. -/
def quotedRest : List Char → Option (List Char)
  | [] => none
  | '\x22' :: cs => some cs
  | '\\' :: 'x' :: a :: b :: cs => if isHex a && isHex b then quotedRest cs else none
  | '\\' :: 'u' :: a :: b :: c :: d :: cs =>
    if [a, b, c, d].all isHex then quotedRest cs else none
  | '\\' :: 'U' :: a :: b :: c :: d :: e :: f :: g :: h :: cs =>
    if [a, b, c, d, e, f, g, h].all isHex then quotedRest cs else none
  | '\\' :: c :: cs => if ['x', 'u', 'U', '\x00'].contains c then none else quotedRest cs
  | c :: cs => if c == '\n' || c == '\\' || c == '\x00' then none else quotedRest cs

def rawRest : List Char → Option (List Char)
  | [] => none
  | c :: cs => if c == '\x60' then some cs else if c == '\x00' then none else rawRest cs

def commentRest : List Char → Option (List Char)
  | '*' :: '/' :: cs => some cs
  | c :: cs => if c == '\x00' then none else commentRest cs
  | [] => none

def lineRest : List Char → List Char
  | [] => []
  | c :: cs => if c == '\n' || c == '\x00' then c :: cs else lineRest cs

def longSymbols : List String :=
  ["<<=", ">>=", "&^=", "...", "&&", "||", "<-", "++", "--", "==", "!=", "<=", ">=", ":=", "+=",
   "-=", "*=", "/=", "%=", "&=", "|=", "^=", "<<", ">>", "&^"]

def shortSymbols : List Char :=
  ['+', '-', '*', '/', '%', '&', '|', '^', '<', '>', '=', '!', '(', ')', '[', ']', '\x7b', '\x7d',
   ',', ';', '.', ':', '~', '\x00']

def symbolAt (c : Char) (cs : List Char) : Option (Lexeme × List Char) :=
  match longSymbols.find? fun symbol => symbol.toList.isPrefixOf (c :: cs) with
  | some symbol => some (.symbol symbol, (c :: cs).drop symbol.length)
  | none => if shortSymbols.contains c then some (.symbol (String.singleton c), cs) else none

def isBlank (c : Char) : Bool :=
  c == ' ' || c == '\t' || c == '\r' || c == '\x0b' || c == '\x0c'

/-- The comment or the literal at a place. A comment that is not closed is no comment, and a literal
that is not closed is no literal. -/
def literalAt (c : Char) (cs : List Char) : Option (Lexeme × List Char) :=
  if c == '/' && cs.head? == some '/' then some (.comment, lineRest cs)
  else if c == '/' && cs.head? == some '*' then (commentRest (cs.drop 1)).map (.comment, ·)
  else if c == '\x22' then (quotedRest cs).map (.text, ·)
  else if c == '\x60' then (rawRest cs).map (.text, ·)
  else if c == '\x27' then (rune (c :: cs)).map (.rune, ·)
  else (number (c :: cs)).map (.number, ·)

def next (c : Char) (cs : List Char) : Lexeme × List Char :=
  if Text.Identifier.isStart c then
    (.word (String.ofList (c :: cs.takeWhile Text.Identifier.isContinue)),
      cs.dropWhile Text.Identifier.isContinue)
  else (literalAt c cs <|> symbolAt c cs).getD (.stray, cs)

def scanFrom : Nat → Position → List Char → List Token
  | 0, here, _ => [⟨.ending, ⟨here, here⟩⟩]
  | _ + 1, here, [] => [⟨.ending, ⟨here, here⟩⟩]
  | fuel + 1, here, c :: cs =>
    if isBlank c then scanFrom fuel (here.after c) cs
    else if c == '\n' then
      ⟨.newline, ⟨here, here.after c⟩⟩ :: scanFrom fuel (here.after c) cs
    else
      let (lexeme, rest) := next c cs
      let stop := here.afterAll ((c :: cs).take ((c :: cs).length - rest.length))
      ⟨lexeme, ⟨here, stop⟩⟩ :: scanFrom fuel stop rest

/-- The tokens of a source. A byte order mark at its very start is passed over. -/
def scan (source : List Char) : List Token :=
  match source with
  | '\ufeff' :: cs => scanFrom (cs.length + 1) (Position.start.after '\ufeff') cs
  | cs => scanFrom (cs.length + 1) .start cs

end Token

end TestReach.Source
