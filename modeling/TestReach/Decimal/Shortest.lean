import TestReach.Decimal.Binary

/-!
# Shortest decimals

The fewest digits that read back as a given double. The quotients that read back form an interval
around the double, half way to its neighbours on each side; the ends belong to it if the number of
the double is even. On the grid of decimals with a given number of digits, the neighbours of the
double are tried, the nearer one first.
-/

namespace TestReach.Decimal

/-- The numbers that round to a double, as fractions with one denominator: the double, the ends of
the interval, and whether the ends belong to it. -/
structure Interval where
  value : Nat
  low : Nat
  high : Nat
  den : Nat
  closed : Bool

def Interval.of (mantissa : Nat) (exponent : Int) : Interval :=
  let (unit, den) := scaled 1 4 2 exponent
  let below := if mantissa = Nat.pow 2 52 ∧ -1074 < exponent then unit else 2 * unit
  { value := 4 * mantissa * unit
    low := 4 * mantissa * unit - below
    high := 4 * mantissa * unit + 2 * unit
    den := den
    closed := mantissa % 2 == 0 }

def Interval.holds (i : Interval) (num den : Nat) : Bool :=
  if i.closed then i.low * den ≤ num * i.den && num * i.den ≤ i.high * den
  else i.low * den < num * i.den && num * i.den < i.high * den

/-- A neighbour of the double on the grid of multiples of `10 ^ place`, if it reads back. Of two
the nearer one is taken, of two equally near ones the even one. -/
def Interval.onGrid? (i : Interval) (place : Int) : Option Nat :=
  let (num, den) := scaled i.value i.den 10 (-place)
  let reads (n : Nat) : Bool :=
    let (a, b) := scaled n 1 10 place
    i.holds a b
  let near := nearest num den
  let far := if near * den ≤ num then near + 1 else near - 1
  if reads near then some near
  else if reads far then some far
  else none

def firstPlace (num den : Nat) : Int :=
  let guess : Int := ((toString num).length : Int) - (toString den).length
  let (a, b) := scaled den 1 10 guess
  if num * b < a then guess - 1 else guess

def Interval.search (i : Interval) (first : Int) : Nat → Nat → Nat × Int
  | 0, _ => (0, 0)
  | fuel + 1, count =>
    let place := first + 1 - count
    match i.onGrid? place with
    | some digits => (digits, place)
    | none => i.search first fuel (count + 1)

def dropZeros : Nat → Nat → Int → Nat × Int
  | 0, digits, place => (digits, place)
  | fuel + 1, digits, place =>
    if digits ≠ 0 ∧ digits % 10 = 0 then dropZeros fuel (digits / 10) (place + 1)
    else (digits, place)

/-- The shortest digits that read back as `mantissa * 2 ^ exponent`, and the power of ten of the
last. Seventeen digits always read back. -/
def shortest (mantissa : Nat) (exponent : Int) : Nat × Int :=
  let i := Interval.of mantissa exponent
  let (digits, place) := i.search (firstPlace i.value i.den) 17 1
  dropZeros 17 digits place

def zeros (n : Nat) : String := String.ofList (List.replicate n '0')

/-- Digits with a point: positional for powers of ten from -5 to 15, with a zero on either side of
the point where no digit is, else one digit before the point and the power behind an `e`. -/
def layOut (digits : Nat) (place : Int) : String :=
  let text := toString digits
  let first := place + text.length - 1
  if 0 ≤ place ∧ first ≤ 15 then text ++ zeros place.toNat ++ ".0"
  else if 0 ≤ first ∧ first ≤ 15 then
    String.ofList (text.toList.take (first.toNat + 1)) ++ "." ++
      String.ofList (text.toList.drop (first.toNat + 1))
  else if -5 ≤ first ∧ first < 0 then "0." ++ zeros (-first - 1).toNat ++ text
  else
    let sign := if first < 0 then "-" else "+"
    let fraction := text.toList.drop 1
    String.ofList (text.toList.take 1) ++
      (if fraction.isEmpty then "" else "." ++ String.ofList fraction) ++
      "e" ++ sign ++ toString first.natAbs

def shortestText? (x : Float) : Option String :=
  match Binary.ofFloat x with
  | .finite negative mantissa exponent =>
    let text :=
      if mantissa = 0 then "0.0"
      else
        let (digits, place) := shortest mantissa exponent
        layOut digits place
    some ((if negative then "-" else "") ++ text)
  | _ => none

end TestReach.Decimal
