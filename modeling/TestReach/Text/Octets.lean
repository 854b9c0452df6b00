
namespace TestReach.Text

def octetsOf (bytes : ByteArray) : List Char := bytes.toList.map fun b => Char.ofNat b.toNat

def octets (text : String) : List Char := octetsOf text.toUTF8

def ofOctets? (octets : List Char) : Option String :=
  String.fromUTF8? ⟨(octets.map fun c => UInt8.ofNat c.toNat).toArray⟩

def wholeLength? (octets : List Char) : Option Nat :=
  [1, 2, 3, 4].find? fun n => n ≤ octets.length && (ofOctets? (octets.take n)).isSome

def isContinuation (c : Char) : Bool := 0x80 ≤ c.toNat && c.toNat < 0xc0

def secondBounds (lead : Nat) : Nat × Nat :=
  if lead = 0xe0 then (0xa0, 0xc0)
  else if lead = 0xed then (0x80, 0xa0)
  else if lead = 0xf0 then (0x90, 0xc0)
  else if lead = 0xf4 then (0x80, 0x90)
  else (0x80, 0xc0)

def announced (lead : Nat) : Nat :=
  if 0xc2 ≤ lead ∧ lead < 0xe0 then 1
  else if 0xe0 ≤ lead ∧ lead < 0xf0 then 2
  else if 0xf0 ≤ lead ∧ lead < 0xf5 then 3
  else 0

def brokenLength : List Char → Nat
  | [] => 0
  | [_] => 1
  | lead :: second :: rest =>
    let (low, high) := secondBounds lead.toNat
    if 0 < announced lead.toNat ∧ low ≤ second.toNat ∧ second.toNat < high then
      2 + ((rest.take (announced lead.toNat - 1)).takeWhile isContinuation).length
    else 1

/-- The characters of octets. What is no character is replaced, once for each longest beginning of
one. The first argument bounds the number of characters. -/
def replacing : Nat → List Char → List Char
  | 0, _ => []
  | _, [] => []
  | fuel + 1, octets =>
    match wholeLength? octets with
    | some n =>
      ((ofOctets? (octets.take n)).map String.toList).getD [] ++ replacing fuel (octets.drop n)
    | none => '\uFFFD' :: replacing fuel (octets.drop (max 1 (brokenLength octets)))

def ofOctetsReplacing (octets : List Char) : String :=
  String.ofList (replacing octets.length octets)

end TestReach.Text
