
namespace TestReach.Coverage

structure Row where
  path : String
  function : String
  percent : Float
  weight? : Option Nat
deriving BEq, Repr, Inhabited

structure Report where
  rows : List Row
  total : Float
deriving BEq, Repr, Inhabited

end TestReach.Coverage
