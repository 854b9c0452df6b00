import TestReach.Json.Reading
import TestReach.Pattern.Basic
import TestReach.Pattern.Compiler

/-!
# Reading patterns

The written form of patterns: characters, classes in brackets, anchors, groups with flags or names,
alternatives and repetition. Look-around and back references are refused, as is every escape that
has no meaning.
-/

namespace TestReach.Pattern

structure Flags where
  ignoreCase : Bool
  multiLine : Bool
  dotAll : Bool
  returns : Bool
  verbose : Bool
  unicode : Bool

def Flags.initial : Flags := ⟨false, false, false, false, false, true⟩

def Flags.apply (flags : Flags) (set : Chars) : Chars :=
  if flags.ignoreCase then (if flags.unicode then .folded set else .asciiFolded set) else set

def Flags.word (flags : Flags) : Chars := if flags.unicode then .word else .asciiWord

def skipVerbose : Nat → List Char → List Char
  | 0, cs => cs
  | fuel + 1, cs =>
    match cs with
    | '#' :: rest => skipVerbose fuel (rest.dropWhile (· != '\n'))
    | c :: rest => if Text.isBlank c then skipVerbose fuel rest else cs
    | [] => []

def Flags.skip (flags : Flags) (cs : List Char) : List Char :=
  if flags.verbose then skipVerbose cs.length cs else cs

/-! ## Escapes -/

inductive Escape
  | char (c : Char)
  | set (s : Chars)
  | place (p : Place)

def ofHex? (digits : List Char) : Option Char := do
  let values ← digits.mapM Json.hexValue?
  if values.isEmpty then none
  let code := values.foldl (fun code value => 16 * code + value) 0
  if code.isValidChar then some (Char.ofNat code) else none

def readHex (digits : Nat) (cs : List Char) : Option (Char × List Char) :=
  match cs with
  | '\x7b' :: rest =>
    match rest.span (· != '\x7d') with
    | (inside, _ :: rest) => (ofHex? inside).map fun c => (c, rest)
    | _ => none
  | cs =>
    if cs.length < digits then none
    else (ofHex? (cs.take digits)).map fun c => (c, cs.drop digits)

def readNamed : List Char → Option (Chars × List Char)
  | '\x7b' :: rest =>
    match rest.span (· != '\x7d') with
    | (name, _ :: rest) => (Chars.named? name).map fun set => (set, rest)
    | _ => none
  | c :: rest => (Chars.named? [c]).map fun set => (set, rest)
  | [] => none

def readEdge (flags : Flags) (cs : List Char) : Option (Escape × List Char) :=
  let plain := some (Escape.place (.wordEdge flags.word), cs)
  match cs with
  | '\x7b' :: c :: rest =>
    if c.isAlpha || c == '-' then
      match (c :: rest).span (· != '\x7d') with
      | (name, _ :: rest) =>
        match String.ofList name with
        | "start" => some (.place (.wordStart flags.word), rest)
        | "end" => some (.place (.wordEnd flags.word), rest)
        | "start-half" => some (.place (.noWordBefore flags.word), rest)
        | "end-half" => some (.place (.noWordBehind flags.word), rest)
        | _ => none
      | _ => none
    else plain
  | _ => plain

def readClass (flags : Flags) (negated : Bool) (unicode ascii : Chars) (rest : List Char) :
    Option (Escape × List Char) :=
  if flags.unicode then some (.set (if negated then .except unicode else unicode), rest)
  else if negated then none
  else some (.set ascii, rest)

def readEscape (flags : Flags) : List Char → Option (Escape × List Char)
  | [] => none
  | c :: rest =>
    let char (c : Char) : Option (Escape × List Char) := some (.char c, rest)
    match c with
    | 'a' => char '\x07'
    | 'f' => char '\x0c'
    | 't' => char '\t'
    | 'n' => char '\n'
    | 'r' => char '\r'
    | 'v' => char '\x0b'
    | 'x' => (readHex 2 rest).map fun (c, rest) => (.char c, rest)
    | 'u' => (readHex 4 rest).map fun (c, rest) => (.char c, rest)
    | 'U' => (readHex 8 rest).map fun (c, rest) => (.char c, rest)
    | 'd' => readClass flags false .digit .asciiDigit rest
    | 'D' => readClass flags true .digit .asciiDigit rest
    | 's' => readClass flags false .blank .asciiBlank rest
    | 'S' => readClass flags true .blank .asciiBlank rest
    | 'w' => readClass flags false .word .asciiWord rest
    | 'W' => readClass flags true .word .asciiWord rest
    | 'p' =>
      if flags.unicode then (readNamed rest).map fun (s, rest) => (.set (flags.apply s), rest)
      else none
    | 'P' =>
      if flags.unicode then
        (readNamed rest).map fun (s, rest) => (.set (.except (flags.apply s)), rest)
      else none
    | 'A' => some (.place .textStart, rest)
    | 'z' => some (.place .textEnd, rest)
    | 'b' => readEdge flags rest
    | 'B' => some (.place (.noWordEdge flags.word), rest)
    | '<' => some (.place (.wordStart flags.word), rest)
    | '>' => some (.place (.wordEnd flags.word), rest)
    | c => if c.toNat < 128 && !c.isAlphanum then char c else none

/-! ## Classes in brackets -/

def readMember (flags : Flags) : List Char → Option (Escape × List Char)
  | [] => none
  | '\\' :: rest =>
    match readEscape flags rest with
    | some (.place _, _) => none
    | found => found
  | c :: rest => some (.char c, rest)

def readAscii (cs : List Char) : Option (Chars × List Char) :=
  let (negated, cs) :=
    match cs with
    | '^' :: rest => (true, rest)
    | cs => (false, cs)
  match cs.span (· != ':') with
  | (name, ':' :: ']' :: rest) =>
    (Chars.asciiNamed? (String.ofList name)).map fun set =>
      (if negated then .except set else set, rest)
  | _ => none

inductive Joint
  | none
  | inter (left : Chars)
  | diff (left : Chars)
  | symDiff (left : Chars)

def Joint.join (flags : Flags) (joint : Joint) (right : Chars) : Chars :=
  match joint with
  | none => right
  | inter left => .inter (flags.apply left) (flags.apply right)
  | diff left => .diff (flags.apply left) (flags.apply right)
  | symDiff left => .symDiff (flags.apply left) (flags.apply right)

mutual

def readBracket (flags : Flags) : Nat → List Char → Option (Chars × List Char)
  | 0, _ => none
  | fuel + 1, cs => do
    let cs := flags.skip cs
    let (negated, cs) :=
      match cs with
      | '^' :: rest => (true, flags.skip rest)
      | cs => (false, cs)
    let dashes := cs.takeWhile (· == '-')
    let rest := flags.skip (cs.drop dashes.length)
    let begun := if dashes.isEmpty then Chars.none else .single '-'
    let (begun, rest) :=
      match rest with
      | ']' :: more => if dashes.isEmpty then (Chars.single ']', more) else (begun, rest)
      | rest => (begun, rest)
    let (set, rest) ← readMembers flags fuel .none begun rest
    if negated && !flags.unicode then none
    let set := flags.apply set
    return (if negated then .except set else set, rest)

def readMembers (flags : Flags) : Nat → Joint → Chars → List Char → Option (Chars × List Char)
  | 0, _, _, _ => none
  | fuel + 1, joint, set, cs =>
    match flags.skip cs with
    | [] => none
    | ']' :: rest => some (joint.join flags set, rest)
    | '&' :: '&' :: rest => readMembers flags fuel (.inter (joint.join flags set)) .none rest
    | '-' :: '-' :: rest => readMembers flags fuel (.diff (joint.join flags set)) .none rest
    | '~' :: '~' :: rest => readMembers flags fuel (.symDiff (joint.join flags set)) .none rest
    | '[' :: rest =>
      let named? :=
        match rest with
        | ':' :: more => readAscii more
        | _ => none
      match named? with
      | some (more, rest) => readMembers flags fuel joint (.union set more) rest
      | none => do
        let (more, rest) ← readBracket flags fuel rest
        readMembers flags fuel joint (.union set more) rest
    | cs => do
      let (first, rest) ← readMember flags cs
      let rest := flags.skip rest
      let isRange :=
        match rest with
        | '-' :: more =>
          match flags.skip more with
          | [] => true
          | c :: _ => c != ']' && c != '-'
        | _ => false
      if isRange then
        let (last, rest) ← readMember flags (flags.skip (rest.drop 1))
        match first, last with
        | .char a, .char b =>
          if a ≤ b then readMembers flags fuel joint (.union set (.range a b)) rest else none
        | _, _ => none
      else
        match first with
        | .char c => readMembers flags fuel joint (.union set (.single c)) rest
        | .set s => readMembers flags fuel joint (.union set s) rest
        | .place _ => none

end

/-! ## Repetition -/

def readCount (cs : List Char) : Option (Nat × List Char) :=
  let cs := cs.dropWhile Text.isBlank
  let digits := cs.takeWhile fun c => '0' ≤ c && c ≤ '9'
  let n := Decimal.digitsValue digits
  if digits.isEmpty || Nat.pow 2 32 ≤ n then none
  else some (n, (cs.drop digits.length).dropWhile Text.isBlank)

def readBounds (flags : Flags) (cs : List Char) : Option (Nat × Option Nat × List Char) := do
  let (least, rest) ← readCount (flags.skip cs)
  match rest with
  | '\x7d' :: rest => return (least, some least, rest)
  | ',' :: rest =>
    match flags.skip rest with
    | '\x7d' :: rest => return (least, none, rest)
    | rest =>
      let (most, rest) ← readCount rest
      match rest with
      | '\x7d' :: rest => if least ≤ most then some (least, some most, rest) else none
      | _ => none
  | _ => none

def behindLazy : List Char → List Char
  | '?' :: rest => rest
  | cs => cs

/-! ## Groups -/

def isNameStart (c : Char) : Bool := c == '_' || Chars.alphabetic.holds c

def isNameChar (c : Char) : Bool :=
  c == '_' || c == '.' || c == '[' || c == ']' || Chars.alphabetic.holds c ||
    Chars.numbers.holds c

def readName (names : List String) (cs : List Char) : Option (String × List Char) :=
  match cs.span (· != '>') with
  | (c :: more, _ :: rest) =>
    let name := String.ofList (c :: more)
    if isNameStart c && more.all isNameChar && !names.contains name then some (name, rest) else none
  | _ => none

def setFlag (flags : Flags) (value : Bool) : Char → Option Flags
  | 'i' => some { flags with ignoreCase := value }
  | 'm' => some { flags with multiLine := value }
  | 's' => some { flags with dotAll := value }
  | 'U' => some flags
  | 'u' => some { flags with unicode := value }
  | 'R' => some { flags with returns := value }
  | 'x' => some { flags with verbose := value }
  | _ => none

def readFlags (seen : List Char) (value : Bool) : Flags → List Char → Option (Flags × List Char)
  | flags, c :: rest =>
    if c == ':' || c == ')' then
      if seen.head? == some '-' || (c == ')' && seen.isEmpty) then none else some (flags, c :: rest)
    else if seen.contains c then none
    else if c == '-' then readFlags (c :: seen) false flags rest
    else (setFlag flags value c).bind fun flags => readFlags (c :: seen) value flags rest
  | _, [] => none

/-! ## Patterns -/

abbrev Pieces := List (Option Pattern)

def ofPieces (pieces : Pieces) : Pattern :=
  pieces.foldl (fun behind piece =>
    match piece with
    | some p => match behind with
      | empty => p
      | behind => both p behind
    | none => behind) empty

def orElse (before? : Option Pattern) (p : Pattern) : Pattern :=
  match before? with
  | some before => either before p
  | none => p

def repeatLast (repeated : Pattern → Pattern) : Pieces → Option Pieces
  | some p :: pieces => some (some (repeated p) :: pieces)
  | _ => none

def dot? (flags : Flags) : Option Pattern :=
  if !flags.unicode then none
  else if flags.dotAll then some (chars .all)
  else if flags.returns then some (chars (.except (.union (.single '\n') (.single '\r'))))
  else some (chars (.except (.single '\n')))

def readGroup : Nat → Flags → List String → Option Pattern → Pieces → List Char →
    Option (Pattern × List String × List Char)
  | 0, _, _, _, _, _ => none
  | fuel + 1, flags, names, before?, pieces, cs =>
    let go (p : Pattern) (rest : List Char) :=
      readGroup fuel flags names before? (some p :: pieces) rest
    let inner (flags : Flags) (names : List String) (rest : List Char) :=
      match readGroup fuel flags names none [] rest with
      | some (p, names', ')' :: rest') =>
        readGroup fuel flags names' before? (some p :: pieces) rest'
      | _ => none
    let again (repeated : Pattern → Pattern) (rest : List Char) :=
      (repeatLast repeated pieces).bind fun pieces =>
        readGroup fuel flags names before? pieces (behindLazy rest)
    match flags.skip cs with
    | [] => some (orElse before? (ofPieces pieces), names, [])
    | ')' :: rest => some (orElse before? (ofPieces pieces), names, ')' :: rest)
    | '|' :: rest => readGroup fuel flags names (some (orElse before? (ofPieces pieces))) [] rest
    | '*' :: rest => again star rest
    | '+' :: rest => again (fun p => times p 1 none) rest
    | '?' :: rest => again (fun p => times p 0 (some 1)) rest
    | '\x7b' :: rest =>
      match readBounds flags rest with
      | some (least, most, rest) => again (fun p => times p least most) rest
      | none => none
    | '.' :: rest => (dot? flags).bind fun p => go p rest
    | '^' :: rest =>
      go (place (if flags.multiLine then .lineStart flags.returns else .textStart)) rest
    | '$' :: rest => go (place (if flags.multiLine then .lineEnd flags.returns else .textEnd)) rest
    | '[' :: rest => (readBracket flags fuel rest).bind fun (set, rest) => go (chars set) rest
    | '\\' :: rest =>
      match readEscape flags rest with
      | some (.char c, rest) => go (chars (flags.apply (.single c))) rest
      | some (.set s, rest) => go (chars s) rest
      | some (.place p, rest) => go (place p) rest
      | none => none
    | '(' :: '?' :: 'P' :: '<' :: rest =>
      (readName names rest).bind fun (name, rest) => inner flags (name :: names) rest
    | '(' :: '?' :: '<' :: rest =>
      (readName names rest).bind fun (name, rest) => inner flags (name :: names) rest
    | '(' :: '?' :: rest =>
      match readFlags [] true flags rest with
      | some (changed, ':' :: rest) =>
        match readGroup fuel changed names none [] rest with
        | some (p, names, ')' :: rest) =>
          readGroup fuel flags names before? (some p :: pieces) rest
        | _ => none
      | some (changed, ')' :: rest) => readGroup fuel changed names before? (none :: pieces) rest
      | _ => none
    | '(' :: rest => inner flags names rest
    | c :: rest => go (chars (flags.apply (.single c))) rest

/-! ## Size -/

/-- About how many steps of a machine a pattern stands for. -/
def size : Pattern → Nat
  | empty => 1
  | chars _ => 1
  | place _ => 1
  | both a b => a.size + b.size
  | either a b => a.size + b.size + 1
  | star a => a.size + 1
  | times a least most => a.size * max 1 (most.getD (least + 1))

/-- Larger patterns are refused. -/
def maxSize : Nat := 300000

def read? (text : String) : Option Pattern :=
  let cs := text.toList
  match readGroup (2 * cs.length + 2) .initial [] none [] cs with
  | some (p, _, []) => if p.size ≤ maxSize then some p else none
  | _ => none

/-- The compiler that the program runs with. -/
instance : Compiler where
  compile? pattern := (read? pattern).map isIn

end TestReach.Pattern
