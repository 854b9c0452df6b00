import TestReach.Decimal.Binary
import TestReach.Text.Cut

/-!
# Reading decimals

A decimal has an optional sign, digits with at most one point among them, and an optional power of
ten. The names of the infinite number and of the one that is no number are decimals too, in letters
of either case. A decimal is read as the double nearest to it.
-/

namespace TestReach.Decimal

def isDigit (c : Char) : Bool := '0' ≤ c && c ≤ '9'

def digitsValue (digits : List Char) : Nat :=
  digits.foldl (fun value digit => 10 * value + (digit.toNat - 48)) 0

def cutSign : List Char → Bool × List Char
  | '-' :: cs => (true, cs)
  | '+' :: cs => (false, cs)
  | cs => (false, cs)

def exponent? : List Char → Option Int
  | [] => some 0
  | c :: cs =>
    if c = 'e' ∨ c = 'E' then
      let (negative, digits) := cutSign cs
      if digits.isEmpty || !digits.all isDigit then none
      else some (if negative then -(digitsValue digits : Int) else digitsValue digits)
    else none

def number? (cs : List Char) : Option (Nat × Nat × Int) :=
  let whole := cs.takeWhile isDigit
  let (fraction, rest) :=
    match cs.dropWhile isDigit with
    | '.' :: behind => (behind.takeWhile isDigit, behind.dropWhile isDigit)
    | behind => ([], behind)
  let digits := whole ++ fraction
  if digits.isEmpty then none
  else (exponent? rest).map fun exponent =>
    (digitsValue digits, digits.length, exponent - fraction.length)

/-- The double nearest to `value * 10 ^ exponent`, where `value` has at most `digits` digits. Beyond
the powers that a double can show, the answer is infinite or zero. -/
def ofPowerOfTen (negative : Bool) (value digits : Nat) (exponent : Int) : Float :=
  if value = 0 ∨ exponent + digits < -400 then toFloat negative 0 1
  else if 400 < exponent then toFloat negative (Nat.pow 2 1024) 1
  else
    let (num, den) := scaled value 1 10 exponent
    toFloat negative num den

def read? (cs : List Char) : Option Float :=
  let (negative, rest) := cutSign cs
  match number? rest with
  | some (value, digits, exponent) => some (ofPowerOfTen negative value digits exponent)
  | none =>
    let name := String.ofList (rest.map Char.toLower)
    if name = "inf" ∨ name = "infinity" then some (toFloat negative (Nat.pow 2 1024) 1)
    else if name = "nan" then some (0.0 / 0.0)
    else none

end TestReach.Decimal
