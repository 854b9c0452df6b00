import TestReach.Json.Reading
import TestReach.Yaml.Node

/-!
# YAML scalars

Scalars are written plain, between quotes, or as indented blocks. Where one goes on over several
lines, a line break is a blank and further empty lines are line breaks.
-/

namespace TestReach.Yaml

def isGap (c : Char) : Bool := c == ' ' || c == '\t'

def atGap : List Char → Bool
  | [] => true
  | c :: _ => isGap c || c == '\n'

def isFlowMark (c : Char) : Bool := [',', '[', ']', '\x7b', '\x7d'].contains c

def isAllowed (c : Char) : Bool :=
  c == '\t' || c == '\n' || (0x20 ≤ c.toNat && c.toNat ≤ 0x7e) || c.toNat == 0x85 ||
    (0xa0 ≤ c.toNat && c.toNat ≤ 0xfffd && c.toNat != 0xfeff) || 0x10000 ≤ c.toNat

def withNewlines : List Char → List Char
  | '\r' :: '\n' :: cs => '\n' :: withNewlines cs
  | '\r' :: cs => '\n' :: withNewlines cs
  | c :: cs => c :: withNewlines cs
  | [] => []

def atDocumentMark (cs : List Char) : Bool :=
  (['-', '-', '-'].isPrefixOf cs || ['.', '.', '.'].isPrefixOf cs) && atGap (cs.drop 3)

def folded (breaks : Nat) : List Char :=
  if breaks = 1 then [' '] else List.replicate (breaks - 1) '\n'

def cutBreaks (breaks : Nat) : Nat → List Char → Nat × Nat × List Char
  | 0, cs => (breaks, 0, cs)
  | fuel + 1, cs =>
    let blanks := cs.takeWhile (· == ' ')
    let rest := cs.dropWhile (· == ' ')
    match rest with
    | '\n' :: more => cutBreaks (breaks + 1) fuel more
    | _ => (breaks, blanks.length, rest)

def plainLine (flow : Bool) : List Char → List Char × List Char
  | [] => ([], [])
  | c :: cs =>
    if c == '\n' || (c == ':' && atGap cs) || (flow && isFlowMark c) then ([], c :: cs)
    else if isGap c then
      let rest := cs.dropWhile isGap
      match rest with
      | [] => ([], rest)
      | '#' :: _ => ([], rest)
      | _ =>
        let (line, after) := plainLine flow cs
        if line.all isGap then ([], after) else (c :: line, after)
    else
      let (line, after) := plainLine flow cs
      (c :: line, after)

/-- The lines of a plain scalar behind its first one. In a block they stand further to the right
than the block that the scalar is in, whose lines begin `margin` blanks or more to the right. -/
def plainMore (flow : Bool) (margin : Nat) : Nat → List Char → List Char × List Char
  | 0, cs => ([], cs)
  | fuel + 1, cs =>
    match cs with
    | '\n' :: more =>
      let (breaks, blanks, rest) := cutBreaks 1 (more.length + 1) more
      let rest' := if flow then rest.dropWhile isGap else rest
      if (!flow && blanks < margin) || rest'.isEmpty || rest'.head? == some '#' ||
          (blanks == 0 && atDocumentMark rest') || rest'.head? == some '\t' then ([], cs)
      else
        let (line, after) := plainLine flow rest'
        if line.isEmpty then ([], cs)
        else
          let (text, after) := plainMore flow margin fuel after
          (folded breaks ++ line ++ text, after)
    | _ => ([], cs)

def startsPlain (flow : Bool) : List Char → Bool
  | [] => false
  | c :: cs =>
    if c == '-' then !atGap cs && !(flow && (cs.head?.map isFlowMark).getD true)
    else if c == '?' || c == ':' then !flow && !atGap cs
    else !([',', '[', ']', '\x7b', '\x7d', '#', '&', '*', '!', '|', '>', '\x27', '\x22', '%', '@',
        '\x60'].contains c) && !atGap (c :: cs)

def readPlain? (flow : Bool) (margin : Nat) (cs : List Char) : Option (Node × List Char) :=
  if startsPlain flow cs then
    let (line, after) := plainLine flow cs
    let (more, after) := plainMore flow margin cs.length after
    some (.scalar true (String.ofList (line ++ more)), after)
  else none

def readCode? (digits : Nat) (cs : List Char) : Option (Char × List Char) := do
  let values ← (cs.take digits).mapM Json.hexValue?
  if values.length < digits then none
  let code := values.foldl (fun code value => 16 * code + value) 0
  if code.isValidChar then some (Char.ofNat code, cs.drop digits) else none

def escaped? : Char → Option Char
  | '0' => some '\x00'
  | 'a' => some '\x07'
  | 'b' => some '\x08'
  | 't' | '\t' => some '\t'
  | 'n' => some '\n'
  | 'v' => some '\x0b'
  | 'f' => some '\x0c'
  | 'r' => some '\r'
  | 'e' => some '\x1b'
  | ' ' => some ' '
  | '\x22' => some '\x22'
  | '/' => some '/'
  | '\\' => some '\\'
  | 'N' => some '\x85'
  | '_' => some '\xa0'
  | 'L' => some '\u2028'
  | 'P' => some '\u2029'
  | _ => none

def cutFold? (cs : List Char) : Option (Nat × List Char) :=
  match cs.dropWhile isGap with
  | '\n' :: more =>
    let (breaks, blanks, rest) := cutBreaks 1 (more.length + 1) more
    if blanks == 0 && atDocumentMark rest then none else some (breaks, rest.dropWhile isGap)
  | _ => none

def readQuoted? (double : Bool) : Nat → List Char → Option (List Char × List Char)
  | 0, _ => none
  | fuel + 1, cs =>
    let go (made rest : List Char) : Option (List Char × List Char) :=
      (readQuoted? double fuel rest).map fun (text, after) => (made ++ text, after)
    match cutFold? cs with
    | some (breaks, rest) => go (folded breaks) rest
    | none =>
      match cs with
      | [] => none
      | c :: rest =>
        if !double && c == '\x27' then
          match rest with
          | '\x27' :: rest => go ['\x27'] rest
          | rest => some ([], rest)
        else if double && c == '\x22' then some ([], rest)
        else if double && c == '\\' then
          match rest with
          | '\n' :: rest =>
            let (breaks, _, rest) := cutBreaks 1 (rest.length + 1) rest
            go (List.replicate (breaks - 1) '\n') (rest.dropWhile isGap)
          | 'x' :: rest => (readCode? 2 rest).bind fun (c, rest) => go [c] rest
          | 'u' :: rest => (readCode? 4 rest).bind fun (c, rest) => go [c] rest
          | 'U' :: rest => (readCode? 8 rest).bind fun (c, rest) => go [c] rest
          | letter :: rest => (escaped? letter).bind fun c => go [c] rest
          | [] => none
        else if c == '\n' then none
        else go [c] rest

def blockLines (margin : Nat) : Nat → List Char → List (List Char) × List Char
  | 0, cs => ([], cs)
  | fuel + 1, cs =>
    match cs with
    | [] => ([], [])
    | _ =>
      let line := cs.takeWhile (· != '\n')
      let rest := cs.drop (line.length + 1)
      let blanks := (line.takeWhile (· == ' ')).length
      if margin ≤ blanks && margin ≤ line.length then
        let (lines, after) := blockLines margin fuel rest
        (line.drop margin :: lines, after)
      else if blanks == line.length then
        let (lines, after) := blockLines margin fuel rest
        ([] :: lines, after)
      else ([], cs)

/-- The lines of a folded block joined: between two lines that do not begin with a blank a line
break is a blank, and each empty line is a line break. -/
def foldLines : List (List Char) → List Char
  | [] => []
  | [line] => line ++ ['\n']
  | line :: rest =>
    let empties := rest.takeWhile List.isEmpty
    let indented (l : List Char) : Bool := (l.head?.map isGap).getD false
    match rest.drop empties.length with
    | [] => line ++ ['\n'] ++ foldLines rest
    | next :: _ =>
      if line.isEmpty || indented line || indented next then line ++ ['\n'] ++ foldLines rest
      else if empties.isEmpty then line ++ [' '] ++ foldLines rest
      else line ++ foldLines rest

/-- The indicators of a block scalar: how its last line breaks are kept, and its indentation. -/
def readIndicators (cs : List Char) : Option (Char × Option Nat × List Char) :=
  let isChomp (c : Char) : Bool := c == '-' || c == '+'
  let isIndent (c : Char) : Bool := '1' ≤ c && c ≤ '9'
  let (chomp, indent, rest) : Char × Option Nat × List Char :=
    match cs with
    | a :: b :: rest =>
      if isChomp a && isIndent b then (a, some (b.toNat - 48), rest)
      else if isIndent a && isChomp b then (b, some (a.toNat - 48), rest)
      else if isChomp a then (a, none, b :: rest)
      else if isIndent a then (' ', some (a.toNat - 48), b :: rest)
      else (' ', none, cs)
    | _ => (' ', none, cs)
  match rest.dropWhile isGap with
  | [] => some (chomp, indent, [])
  | '\n' :: rest => some (chomp, indent, rest)
  | '#' :: more =>
    if (rest.head?.map isGap).getD false then
      some (chomp, indent, (more.dropWhile (· != '\n')).drop 1)
    else none
  | _ => none

def readBlock? (fold : Bool) (margin : Nat) (cs : List Char) : Option (Node × List Char) := do
  let (chomp, indent?, rest) ← readIndicators cs
  let (_, found, _) := cutBreaks 0 (rest.length + 1) rest
  let width := match indent? with
    | some indent => (margin - 1) + indent
    | none => max margin (max 1 found)
  let (lines, after) := blockLines width (rest.length + 1) rest
  let kept := (lines.reverse.dropWhile List.isEmpty).reverse
  let body := if fold then foldLines kept else kept.flatMap fun line => line ++ ['\n']
  let text :=
    if chomp == '-' then body.dropLast
    else if chomp == '+' then body ++ List.replicate (lines.length - kept.length) '\n'
    else body
  return (.scalar false (String.ofList text), '\n' :: after)

end TestReach.Yaml
