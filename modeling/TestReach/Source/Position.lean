
namespace TestReach.Source

structure Position where
  offset : Nat
  row : Nat
deriving DecidableEq, Repr, Inhabited

namespace Position

def start : Position := ⟨0, 0⟩

def after (p : Position) (c : Char) : Position :=
  ⟨p.offset + 1, if c = '\n' then p.row + 1 else p.row⟩

def afterAll (p : Position) (cs : List Char) : Position :=
  cs.foldl after p

def line (p : Position) : Nat := p.row + 1

def furthest (p q : Position) : Position :=
  if p.offset < q.offset then q else p

end Position

structure Span where
  start : Position
  stop : Position
deriving DecidableEq, Repr, Inhabited

end TestReach.Source
