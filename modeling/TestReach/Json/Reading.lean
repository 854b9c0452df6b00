import TestReach.Decimal.Reading
import TestReach.Json.Value
import TestReach.Text.Octets

/-!
# Reading JSON

A text is read from its octets. Only the whitespace and the escapes of the format are accepted, no
comments and no commas without a value behind them.
-/

namespace TestReach.Json

def isSpace (c : Char) : Bool := c == ' ' || c == '\n' || c == '\t' || c == '\r'

def skipSpace (cs : List Char) : List Char := cs.dropWhile isSpace

def ofWhole (n : Nat) : Float := Decimal.toFloat false n 1

def powerOfTen (e : Nat) : Float := Decimal.toFloat false (Nat.pow 10 e) 1

/-- The number `significand * 10 ^ exponent`, by one multiplication or division of doubles; beyond
the power 308 by one for each 308 places. -/
def Number.ofScaled (negative : Bool) (significand : Float) : Nat → Int → Number
  | fuel, exponent =>
    if exponent.natAbs ≤ 308 then
      let x :=
        if 0 ≤ exponent then significand * powerOfTen exponent.natAbs
        else significand / powerOfTen exponent.natAbs
      if x.isInf then .tooLarge else .float (if negative then -x else x)
    else if significand == 0 then .float (if negative then -significand else significand)
    else if 0 ≤ exponent then .tooLarge
    else
      match fuel with
      | 0 => .float (if negative then -0.0 else 0.0)
      | fuel + 1 => ofScaled negative (significand / powerOfTen 308) fuel (exponent + 308)

def takeDigits (cs : List Char) : List Char × List Char :=
  (cs.takeWhile Decimal.isDigit, cs.dropWhile Decimal.isDigit)

def addDigits (significand : Nat) : List Char → Nat × List Char
  | [] => (significand, [])
  | c :: cs =>
    let more := 10 * significand + (c.toNat - 48)
    if more < Nat.pow 2 64 then addDigits more cs else (significand, c :: cs)

/-- A number from its digits before and behind the point and its power of ten. Digits that do not
fit into the significand count as places before the point and not at all behind it. -/
def Number.ofDigits (negative : Bool) (whole fraction : List Char) (power? : Option Int) : Number :=
  let (significand, left) := addDigits 0 whole
  let (significand, unread) := addDigits significand fraction
  let exponent : Int := left.length - (fraction.length - unread.length : Nat)
  let finish (power : Int) : Number :=
    let total := exponent + power
    ofScaled negative (ofWhole significand) (total.natAbs / 308 + 1) total
  match power? with
  | some power =>
    if power.natAbs < Nat.pow 2 31 then finish power
    else if significand ≠ 0 ∧ 0 ≤ power then .tooLarge
    else .float (if negative then -0.0 else 0.0)
  | none =>
    if fraction.isEmpty ∧ left.isEmpty ∧ !negative then .natural significand else finish 0

def readPower : List Char → Option (Option Int × List Char)
  | c :: cs =>
    if c = 'e' ∨ c = 'E' then
      let (negative, cs) := Decimal.cutSign cs
      let (digits, rest) := takeDigits cs
      if digits.isEmpty then none
      else
        let power : Int := Decimal.digitsValue digits
        some (some (if negative then -power else power), rest)
    else some (none, c :: cs)
  | [] => some (none, [])

def readNumber (cs : List Char) : Option (Number × List Char) :=
  let (negative, cs) :=
    match cs with
    | '-' :: cs => (true, cs)
    | cs => (false, cs)
  let (whole, cs) := takeDigits cs
  if whole.isEmpty || (whole.length != 1 && whole.head? == some '0') then none
  else
    match cs with
    | '.' :: cs =>
      let (fraction, cs) := takeDigits cs
      if fraction.isEmpty then none
      else
        (readPower cs).map fun (power?, rest) =>
          (.ofDigits negative whole fraction power?, rest)
    | cs =>
      (readPower cs).map fun (power?, rest) => (.ofDigits negative whole [] power?, rest)

def hexValue? (c : Char) : Option Nat :=
  if '0' ≤ c ∧ c ≤ '9' then some (c.toNat - 48)
  else if 'a' ≤ c ∧ c ≤ 'f' then some (c.toNat - 87)
  else if 'A' ≤ c ∧ c ≤ 'F' then some (c.toNat - 55)
  else none

def readHex : List Char → Option (Nat × List Char)
  | a :: b :: c :: d :: cs => do
    let a ← hexValue? a
    let b ← hexValue? b
    let c ← hexValue? c
    let d ← hexValue? d
    return (((a * 16 + b) * 16 + c) * 16 + d, cs)
  | _ => none

/-- The code unit behind the letter of its escape. The first half of a surrogate pair takes the
second with it; a half alone is no text. -/
def readUnit (cs : List Char) : Option (Option Char × List Char) := do
  let (unit, cs) ← readHex cs
  if 0xd800 ≤ unit ∧ unit < 0xdc00 then
    match cs with
    | '\\' :: 'u' :: more =>
      let (second, rest) ← readHex more
      if 0xdc00 ≤ second ∧ second < 0xe000 then
        return (some (Char.ofNat (0x10000 + (unit - 0xd800) * 0x400 + (second - 0xdc00))), rest)
      else return (none, cs)
    | _ => return (none, cs)
  else if 0xdc00 ≤ unit ∧ unit < 0xe000 then return (none, cs)
  else return (some (Char.ofNat unit), cs)

def escaped? : Char → Option Char
  | '\x22' => some '\x22'
  | '\\' => some '\\'
  | '/' => some '/'
  | 'b' => some '\x08'
  | 'f' => some '\x0c'
  | 'n' => some '\n'
  | 'r' => some '\r'
  | 't' => some '\t'
  | _ => none

def readOctets : Nat → List Char → Option ((List Char × Bool) × List Char)
  | 0, _ => none
  | fuel + 1, cs =>
    match cs with
    | [] => none
    | '\x22' :: rest => some (([], true), rest)
    | '\\' :: 'u' :: rest => do
      let (char?, rest) ← readUnit rest
      let ((octets, sound), rest) ← readOctets fuel rest
      match char? with
      | some c => return ((Text.octets (String.ofList [c]) ++ octets, sound), rest)
      | none => return ((octets, false), rest)
    | '\\' :: letter :: rest => do
      let c ← escaped? letter
      let ((octets, sound), rest) ← readOctets fuel rest
      return ((c :: octets, sound), rest)
    | c :: rest => do
      if c.toNat < 0x20 || c == '\\' then none
      let ((octets, sound), rest) ← readOctets fuel rest
      return ((c :: octets, sound), rest)

def readString (cs : List Char) : Option (Option String × List Char) :=
  (readOctets (cs.length + 1) cs).map fun ((octets, sound), rest) =>
    (if sound then Text.ofOctets? octets else none, rest)

def readWord (word : String) (value : Json) (cs : List Char) : Option (Json × List Char) :=
  if word.toList.isPrefixOf cs then some (value, cs.drop word.length) else none

mutual

def readValue : Nat → List Char → Option (Json × List Char)
  | 0, _ => none
  | fuel + 1, cs =>
    match cs with
    | '\x22' :: rest => (readString rest).map fun (text?, rest) => (.string text?, rest)
    | '[' :: rest =>
      match skipSpace rest with
      | ']' :: rest => some (.array [], rest)
      | rest => (readItems fuel rest).map fun (items, rest) => (.array items, rest)
    | '\x7b' :: rest =>
      match skipSpace rest with
      | '\x7d' :: rest => some (.object [], rest)
      | rest => (readMembers fuel rest).map fun (members, rest) => (.object members, rest)
    | 'n' :: _ => readWord "null" .null cs
    | 't' :: _ => readWord "true" (.bool true) cs
    | 'f' :: _ => readWord "false" (.bool false) cs
    | cs => (readNumber cs).map fun (n, rest) => (.number n, rest)

def readItems : Nat → List Char → Option (List Json × List Char)
  | 0, _ => none
  | fuel + 1, cs => do
    let (item, rest) ← readValue fuel (skipSpace cs)
    match skipSpace rest with
    | ',' :: rest =>
      let (items, rest) ← readItems fuel rest
      return (item :: items, rest)
    | ']' :: rest => return ([item], rest)
    | _ => none

def readMembers : Nat → List Char → Option (List (Option String × Json) × List Char)
  | 0, _ => none
  | fuel + 1, cs => do
    match skipSpace cs with
    | '\x22' :: rest =>
      let (name, rest) ← readString rest
      match skipSpace rest with
      | ':' :: rest =>
        let (value, rest) ← readValue fuel (skipSpace rest)
        match skipSpace rest with
        | ',' :: rest =>
          let (members, rest) ← readMembers fuel rest
          return ((name, value) :: members, rest)
        | '\x7d' :: rest => return ([(name, value)], rest)
        | _ => none
      | _ => none
    | _ => none

end

def ofOctets? (octets : List Char) : Option Json :=
  match readValue (2 * octets.length + 1) (skipSpace octets) with
  | some (value, rest) => if (skipSpace rest).isEmpty then some value else none
  | none => none

def read? (text : String) : Option Json := ofOctets? (Text.octets text)

def readStream : Nat → List Char → Option (List Json)
  | 0, _ => none
  | fuel + 1, octets =>
    match skipSpace octets with
    | [] => some []
    | cs =>
      match readValue (2 * cs.length + 1) cs with
      | some (value, rest) => (readStream fuel rest).map (value :: ·)
      | none => none

def streamOfOctets? (octets : List Char) : Option (List Json) :=
  readStream (octets.length + 1) octets

end TestReach.Json
