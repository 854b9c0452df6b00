import TestReach.Source.Token
import TestReach.Source.Tree

/-!
# Grammar rules and how they read

A grammar names rules, and a rule says how to take tokens and which nodes to build. Alternatives are
ordered: the first that fits is kept. A rule reads in a mode, which it may change for a part of
itself, and may look at the mode and at the tokens ahead before it decides. Where nothing fits, the
answer is the furthest place at which a token was refused.
-/

namespace TestReach.Source

structure Growth (Reading : Type) where
  kind : Kind
  rest : Reading
  finish : Tree → Option Tree
  mayStay : Bool

inductive Rule (Mode Name : Type)
  | done
  | fail
  | take (accepts : Lexeme → Bool)
  | takeFirst (accepts : Char → Bool)
  | leaf (role : Role) (kind : Kind) (accepts : Lexeme → Bool)
  | seq (first second : Rule Mode Name)
  | orElse (first second : Rule Mode Name)
  | look (choose : Mode → List Token → Rule Mode Name)
  | name (called : Name)
  | node (role : Role) (kind : Kind) (inner : Rule Mode Name)
  | grow (step : Mode → List Token → Tree → Option (Growth (Rule Mode Name)))
  | within (change : Mode → Mode) (inner : Rule Mode Name)
  | settle (change : Mode → Tree → Option Tree)

namespace Rule

/-- What is left to read, the children of the open node with the last one first, the end of the
last token taken, and the furthest place at which a token was refused so far. -/
structure State where
  tokens : List Token
  children : List Tree
  stop : Position
  refused : Position

namespace State

def ahead : List Token → Position → Position
  | [], stop => stop
  | t :: rest, stop =>
    if t.lexeme = .newline ∨ t.lexeme = .comment then ahead rest stop
    else if t.lexeme = .ending then stop
    else t.span.start

def refuse (s : State) : Position :=
  s.refused.furthest (ahead s.tokens s.stop)

def commentNode (t : Token) : Tree :=
  .node .plain .comment t.span []

def passBlanks (s : State) : State :=
  go s.tokens s.children
where
  go : List Token → List Tree → State
    | [], children => { s with tokens := [], children := children }
    | t :: rest, children =>
      match t.lexeme with
      | .newline => go rest children
      | .comment => go rest (commentNode t :: children)
      | _ => { s with tokens := t :: rest, children := children }

def next? (accepts : Lexeme → Bool) (s : State) : Option (Token × State) :=
  go s.tokens s.children
where
  go : List Token → List Tree → Option (Token × State)
    | [], _ => none
    | t :: rest, children =>
      if accepts t.lexeme then
        some (t, { s with tokens := rest, children := children, stop := t.span.stop })
      else match t.lexeme with
        | .newline => go rest children
        | .comment => go rest (commentNode t :: children)
        | _ => none

def splitNext (s : State) : Option (Char × State) :=
  match s.passBlanks.tokens with
  | ⟨.symbol text, span⟩ :: rest =>
    match text.toList with
    | c :: cs =>
      let middle := span.start.after c
      let left : List Token :=
        if cs.isEmpty then rest else ⟨.symbol (String.ofList cs), ⟨middle, span.stop⟩⟩ :: rest
      some (c, { s.passBlanks with tokens := left, stop := middle })
    | [] => none
  | _ => none

end State

def run {Mode Name : Type} (grammar : Name → Rule Mode Name) :
    Nat → Mode → Rule Mode Name → State → Except Position State
  | 0, _, _, s => .error s.refuse
  | fuel + 1, mode, rule, s =>
    match rule with
    | done => .ok s
    | fail => .error s.refuse
    | take accepts =>
      match s.next? accepts with
      | some (_, s') => .ok s'
      | none => .error s.refuse
    | takeFirst accepts =>
      match s.splitNext with
      | some (c, s') => if accepts c then .ok s' else .error s.refuse
      | none => .error s.refuse
    | leaf role kind accepts =>
      match s.next? accepts with
      | some (t, s') => .ok { s' with children := .node role kind t.span [] :: s'.children }
      | none => .error s.refuse
    | seq first second =>
      match run grammar fuel mode first s with
      | .ok s' => run grammar fuel mode second s'
      | .error refused => .error refused
    | orElse first second =>
      match run grammar fuel mode first s with
      | .ok s' => .ok s'
      | .error refused => run grammar fuel mode second { s with refused := refused }
    | look choose => run grammar fuel mode (choose mode s.tokens) s
    | name called => run grammar fuel mode (grammar called) s
    | node role kind inner =>
      let s := s.passBlanks
      let start := State.ahead s.tokens s.stop
      match run grammar fuel mode inner { s with children := [] } with
      | .ok s' =>
        let tree := Tree.node role kind ⟨start, s'.stop⟩ s'.children.reverse
        .ok { s' with children := tree :: s.children }
      | .error refused => .error refused
    | grow step =>
      match s.children with
      | [] => .ok s
      | tree :: before =>
        match step mode s.tokens tree with
        | none => .ok s
        | some growth =>
          let grown? : Except Position (Tree × State) :=
            match run grammar fuel mode growth.rest { s with children := [tree] } with
            | .error refused => .error refused
            | .ok s' =>
              let grown :=
                Tree.node .plain growth.kind ⟨tree.span.start, s'.stop⟩ s'.children.reverse
              match growth.finish grown with
              | none => .error s'.refuse
              | some tree => .ok (tree, s')
          match grown? with
          | .ok (tree, s') =>
            run grammar fuel mode (grow step) { s' with children := tree :: before }
          | .error refused =>
            if growth.mayStay then .ok { s with refused := refused } else .error refused
    | within change inner => run grammar fuel (change mode) inner s
    | settle change =>
      match s.children with
      | [] => .error s.refuse
      | tree :: before =>
        match change mode tree with
        | none => .error s.refuse
        | some tree => .ok { s with children := tree :: before }

/-- The node that a rule reads from all of the tokens, or the furthest place at which a token was
refused. The fuel grows with the input, comments left out; every turn of the grammar takes a token
after a bounded number of rules. -/
def read {Mode Name : Type} (grammar : Name → Rule Mode Name) (mode : Mode) (rule : Rule Mode Name)
    (tokens : List Token) : Except Position Tree :=
  let s : State := ⟨tokens, [], .start, .start⟩
  let count := tokens.countP fun t => t.lexeme != .comment
  match run grammar (64 * (count + 4)) mode rule s with
  | .error refused => .error refused
  | .ok s' =>
    match s'.children, s'.passBlanks.tokens with
    | tree :: _, [⟨.ending, _⟩] => .ok tree
    | _, _ => .error s'.refuse

end Rule

end TestReach.Source
