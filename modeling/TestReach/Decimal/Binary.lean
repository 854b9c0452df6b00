/-!
# Binary fractions

A double taken apart: a finite one is a whole number times a power of two. Every quotient of whole
numbers has a nearest double; of two equally near ones it is the one with the even number.
-/

namespace TestReach.Decimal

inductive Binary
  | nan
  | infinite (negative : Bool)
  | finite (negative : Bool) (mantissa : Nat) (exponent : Int)
deriving DecidableEq, Repr

def Binary.ofFloat (x : Float) : Binary :=
  let bits := x.toBits.toNat
  let negative := bits / Nat.pow 2 63 == 1
  let scale : Nat := bits / Nat.pow 2 52 % Nat.pow 2 11
  let fraction := bits % Nat.pow 2 52
  if scale = 2047 then (if fraction = 0 then .infinite negative else .nan)
  else if scale = 0 then .finite negative fraction (-1074)
  else .finite negative (Nat.pow 2 52 + fraction) ((scale : Int) - 1075)

def nearest (num den : Nat) : Nat :=
  let below := num / den
  let rest := num % den
  if 2 * rest < den then below
  else if den < 2 * rest then below + 1
  else below + below % 2

def scaled (num den base : Nat) (exponent : Int) : Nat × Nat :=
  if 0 ≤ exponent then (num * Nat.pow base exponent.toNat, den)
  else (num, den * Nat.pow base (-exponent).toNat)

/-- The bits of the double nearest to a quotient. The number of a normal double has 53 bits; below
the normal doubles the last place stays where it is, and above all doubles is the infinite one. -/
def nearestBits (num den : Nat) : Nat :=
  if num = 0 then 0
  else
    let guess : Int := (num.log2 : Int) - den.log2
    let atGuess := scaled den 1 2 guess
    let top := if num * atGuess.2 < atGuess.1 then guess - 1 else guess
    let place := max (top - 52) (-1074)
    let (n, d) := scaled num den 2 (-place)
    min ((place + 1074).toNat * Nat.pow 2 52 + nearest n d) (2047 * Nat.pow 2 52)

def toFloat (negative : Bool) (num den : Nat) : Float :=
  Float.ofBits (UInt64.ofNat (nearestBits num den + if negative then Nat.pow 2 63 else 0))

end TestReach.Decimal
