/-!
# Tables of code points

A property of characters is kept as a list of closed ranges of code points, or of runs: ranges in
which only every n-th code point counts.
-/

namespace TestReach.Text

def inRanges (ranges : List (Nat × Nat)) (code : Nat) : Bool :=
  ranges.any fun range => range.1 ≤ code && code ≤ range.2

def inRun (first last step code : Nat) : Bool :=
  first ≤ code && code ≤ last && (code - first) % step == 0

def inRuns (runs : List (Nat × Nat × Nat)) (code : Nat) : Bool :=
  runs.any fun (first, last, step) => inRun first last step code

end TestReach.Text
