import TestReach.Decimal.Binary

/-!
# Fixed places

A double with a fixed number of decimal places. The exact value is rounded, a half to the even
neighbour, and a zero keeps its sign.
-/

namespace TestReach.Decimal

def withPoint (places n : Nat) : String :=
  let fraction := toString (n % Nat.pow 10 places)
  toString (n / Nat.pow 10 places) ++ "." ++
    String.ofList (List.replicate (places - fraction.length) '0') ++ fraction

def fixed (places : Nat) (x : Float) : String :=
  match Binary.ofFloat x with
  | .nan => "NaN"
  | .infinite negative => if negative then "-inf" else "inf"
  | .finite negative mantissa exponent =>
    let (num, den) := scaled (mantissa * Nat.pow 10 places) 1 2 exponent
    (if negative then "-" else "") ++ withPoint places (nearest num den)

end TestReach.Decimal
