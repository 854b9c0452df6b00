import TestReach.Yaml.Scalar

/-!
# Reading YAML

One document of block and flow collections, without anchors, and tags only at its scalars. In a
block, indentation is by blanks alone.
-/

namespace TestReach.Yaml

structure Cursor where
  rest : List Char
  column : Nat
  fresh : Bool

/-- The cursor behind blanks, comments and line breaks. In a block, a tab must not stand at the
beginning of a line. -/
def skip (flow : Bool) : Nat → Cursor → Option Cursor
  | 0, _ => none
  | fuel + 1, c =>
    match c.rest with
    | ' ' :: rest => skip flow fuel ⟨rest, c.column + 1, c.fresh⟩
    | '\t' :: rest =>
      if c.fresh && !flow then none else skip flow fuel ⟨rest, c.column + 1, c.fresh⟩
    | '#' :: rest => skip flow fuel ⟨rest.dropWhile (· != '\n'), c.column, c.fresh⟩
    | '\n' :: rest => skip flow fuel ⟨rest, 0, true⟩
    | _ => some c

def Cursor.skip? (c : Cursor) : Option Cursor := skip false (c.rest.length + 1) c

def Cursor.ended (c : Cursor) : Bool :=
  c.rest.isEmpty || (c.column == 0 && atDocumentMark c.rest)

def Cursor.atDash (c : Cursor) : Bool :=
  match c.rest with
  | '-' :: rest => atGap rest
  | _ => false

def skipFlow (cs : List Char) : List Char :=
  match skip true (cs.length + 1) ⟨cs, 0, false⟩ with
  | some c => c.rest
  | none => cs

mutual

def flowNode : Nat → List Char → Option (Node × List Char)
  | 0, _ => none
  | fuel + 1, cs =>
    match cs with
    | '[' :: rest => flowItems fuel (skipFlow rest)
    | '\x7b' :: rest => flowEntries fuel (skipFlow rest)
    | '\x27' :: rest =>
      (readQuoted? false (rest.length + 1) rest).map fun (text, after) =>
        (.scalar false (String.ofList text), after)
    | '\x22' :: rest =>
      (readQuoted? true (rest.length + 1) rest).map fun (text, after) =>
        (.scalar false (String.ofList text), after)
    | cs => readPlain? true 0 cs

def flowValue : Nat → List Char → Option (Node × List Char)
  | 0, _ => none
  | fuel + 1, cs =>
    match skipFlow cs with
    | ',' :: rest => some (.empty, ',' :: rest)
    | ']' :: rest => some (.empty, ']' :: rest)
    | '\x7d' :: rest => some (.empty, '\x7d' :: rest)
    | cs => flowNode fuel cs

def flowItems : Nat → List Char → Option (Node × List Char)
  | 0, _ => none
  | fuel + 1, cs =>
    match cs with
    | ']' :: rest => some (.sequence [], rest)
    | cs => do
      let (item, rest) ← flowNode fuel cs
      let (item, rest) ←
        match skipFlow rest with
        | ':' :: more => do
          let (value, rest) ← flowValue fuel more
          pure (Node.mapping [(item, value)], rest)
        | rest => pure (item, rest)
      match skipFlow rest with
      | ']' :: rest => return (.sequence [item], rest)
      | ',' :: rest =>
        match ← flowItems fuel (skipFlow rest) with
        | (.sequence items, rest) => return (.sequence (item :: items), rest)
        | _ => none
      | _ => none

def flowEntries : Nat → List Char → Option (Node × List Char)
  | 0, _ => none
  | fuel + 1, cs =>
    match cs with
    | '\x7d' :: rest => some (.mapping [], rest)
    | cs => do
      let (key, rest) ←
        match cs with
        | ':' :: _ => pure (Node.empty, cs)
        | cs => flowNode fuel cs
      let (value, rest) ←
        match skipFlow rest with
        | ':' :: more => flowValue fuel more
        | rest => pure (Node.empty, rest)
      match skipFlow rest with
      | '\x7d' :: rest => return (.mapping [(key, value)], rest)
      | ',' :: rest =>
        match ← flowEntries fuel (skipFlow rest) with
        | (.mapping entries, rest) => return (.mapping ((key, value) :: entries), rest)
        | _ => none
      | _ => none

end

def readFlow (cs : List Char) : Option (Node × List Char) := flowNode (4 * cs.length + 4) cs

def inlineNode (margin : Nat) (cs : List Char) : Option (Node × List Char) :=
  match cs with
  | '|' :: rest => readBlock? false margin rest
  | '>' :: rest => readBlock? true margin rest
  | '[' :: _ | '\x7b' :: _ | '\x27' :: _ | '\x22' :: _ => readFlow cs
  | cs => readPlain? false margin cs

def readKey? (c : Cursor) : Option (Node × Cursor) := do
  let (key, rest) ←
    match c.rest with
    | '\x27' :: _ | '\x22' :: _ | '[' :: _ | '\x7b' :: _ => readFlow c.rest
    | ':' :: more => if atGap more then pure (Node.empty, c.rest) else none
    | cs =>
      if startsPlain false cs then
        let (line, after) := plainLine false cs
        pure (.scalar true (String.ofList line), after)
      else none
  let used := c.rest.length - rest.length
  if (c.rest.take used).contains '\n' then none
  match rest.dropWhile isGap with
  | ':' :: after =>
    if atGap after then some (key, ⟨after, c.column + (c.rest.length - after.length), false⟩)
    else none
  | _ => none

mutual

/-- A node in a block, whose lines begin `margin` blanks or more to the right. -/
def blockNode : Nat → Nat → Cursor → Option (Node × Cursor)
  | 0, _, _ => none
  | fuel + 1, margin, c =>
    if c.atDash then (blockItems fuel c.column c).map fun (items, c) => (.sequence items, c)
    else if (readKey? c).isSome then
      (blockEntries fuel c.column c).map fun (entries, c) => (.mapping entries, c)
    else (inlineNode margin c.rest).map fun (node, rest) => (node, ⟨rest, c.column, false⟩)

def blockItems : Nat → Nat → Cursor → Option (List Node × Cursor)
  | 0, _, _ => none
  | fuel + 1, column, c => do
    let next ← Cursor.skip? ⟨c.rest.drop 1, c.column + 1, c.fresh⟩
    let (item, after) ←
      if next.ended || (next.column ≤ column) then pure (Node.empty, next)
      else blockNode fuel (column + 1) next
    let after ← after.skip?
    if after.ended || (after.fresh && after.column < column) then return ([item], after)
    else if after.fresh && after.column == column then
      if after.atDash then
        let (items, c) ← blockItems fuel column after
        return (item :: items, c)
      else return ([item], after)
    else none

def blockEntries : Nat → Nat → Cursor → Option (List (Node × Node) × Cursor)
  | 0, _, _ => none
  | fuel + 1, column, c => do
    let (key, behind) ← readKey? c
    let next ← behind.skip?
    let (value, after) ←
      if next.ended || (next.fresh && (next.column < column ||
          (next.column == column && !next.atDash))) then pure (Node.empty, next)
      else if next.fresh then blockNode fuel (column + 1) next
      else (inlineNode (column + 1) next.rest).map fun (node, rest) =>
        (node, (⟨rest, next.column, false⟩ : Cursor))
    let after ← after.skip?
    if after.ended || (after.fresh && after.column < column) then return ([(key, value)], after)
    else if after.fresh && after.column == column then
      let (entries, c) ← blockEntries fuel column after
      return ((key, value) :: entries, c)
    else none

end

def endsHere (c : Cursor) : Bool :=
  if ['.', '.', '.'].isPrefixOf c.rest then
    match Cursor.skip? ⟨c.rest.drop 3, 3, false⟩ with
    | some c => c.rest.isEmpty
    | none => false
  else c.rest.isEmpty

def read? (text : String) : Option Node := do
  let cs := withNewlines text.toList
  let cs := if cs.head? == some '\uFEFF' then cs.drop 1 else cs
  if !cs.all isAllowed then none
  let start ← Cursor.skip? ⟨cs, 0, true⟩
  let begun : Cursor :=
    if start.column == 0 && ['-', '-', '-'].isPrefixOf start.rest && atGap (start.rest.drop 3) then
      ⟨start.rest.drop 3, 3, false⟩
    else start
  let c ← begun.skip?
  if c.ended then
    if endsHere c then some .empty else none
  else
    let (node, after) ←
      if c.fresh then blockNode (4 * cs.length + 4) 0 c
      else (inlineNode 0 c.rest).map fun (node, rest) => (node, (⟨rest, c.column, false⟩ : Cursor))
    let after ← after.skip?
    if after.ended && endsHere after then some node else none

end TestReach.Yaml
